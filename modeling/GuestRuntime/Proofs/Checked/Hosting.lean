import GuestRuntime.Proofs.Checked.Figures
import GuestRuntime.Proofs.Checked.Serves
import GuestRuntime.Proofs.Mini.Evaluation

/-!
Marshaling and evaluation with their checks. What is read of a vector is read at an index, the
figures of a number are cut where there are some, roots are counted in 32 bits, and every frame's
release is counted by the guest. That counter never overflows: a frame that releases anything has
made an object first, so

        releases + frames that are open ≤ objects

is kept by every frame. Main statements: `serves_marshal` and `serves_evaluate`.
-/

namespace GuestRuntime.Checked

open Mini TheGuest

section Definitions

/-- A dialogue that needs no checks of its own, over calls with theirs. -/
def exec {α : Type} : Dialogue α → Act α
  | .done a => pure a
  | .note n d => do
    remark n
    exec d
  | .ask e _ k => do
    exec (k (← call e))

/-- The text of a number. -/
def realText (y : Double) : Act String := do
  if y.isNaN then
    if ← call (.isMissing y) then return "NA" else return "NaN"
  else if y.isInfinite then
    return if y.isNegative then "-Inf" else "Inf"
  else
    Act.step (roundedText y)

/-- What the host keeps of an object, which must be rooted meanwhile. -/
def marshal (x : Obj) : Act HostValue := do
  let kind ← call (.kindOf x)
  if kind = Kind.chars then
    return .text (← exec (Dialogue.charsText x))
  else if kind = Kind.strings then
    if 0 < (← call (.length x)) then
      return .text (← exec (Dialogue.charsText (← call (.stringElement x 0))))
    else
      return .object x
  else if kind = Kind.bytes then
    let n := (← call (.length x)).toNat
    if n = 0 then
      return .bytes []
    else
      return .bytes (← Act.step (slice (← call (.bytes x)) 0 n))
  else if kind = Kind.reals then
    if ← exec (Dialogue.single x) then
      return .text (← realText (← Act.step (index (← call (.reals x)) 0)))
    else
      return .object x
  else if kind = Kind.integers then
    if ← exec (Dialogue.single x) then
      return .text (integerText (← Act.step (index (← call (.integers x)) 0)))
    else
      return .object x
  else if kind = Kind.logicals then
    if ← exec (Dialogue.single x) then
      return .text (logicalText (← Act.step (index (← call (.logicals x)) 0)))
    else
      return .object x
  else
    return .object x

/-- The expressions of a source text, of which there must be at least one. -/
def sourceExpressions (code : String) (text : Bytes) : Activity Obj := do
  let source ← Activity.root (← Activity.inner (call (.allocStrings 1)))
  Activity.inner (call (.setString source 0 text))
  let (status, exprs) ← Activity.inner (call (.parse source))
  let exprs ← Activity.root exprs
  if status ≠ parsedOk then
    throw (.parse code)
  let n ← Activity.inner (call (.length exprs))
  if n = 0 then
    throw (.parse code)
  if 1 < n then
    Activity.inner (remark (.extraExpressions n code))
  return exprs

/-- The value of the first of some expressions; `explain` finds the message of a failure. -/
def firstValue (explain : Act String) (code : String) (env : Option Obj) (exprs : Obj) :
    Activity HostValue := do
  let env ← match env with
    | some env => pure env
    | none => Activity.inner (call .globalEnv)
  let expr ← Activity.inner (call (.element exprs 0))
  let (failed, result) ← Activity.inner (call (.tryEval expr env 0))
  let result ← Activity.root result
  if failed ≠ 0 then
    throw (.runtime (← Activity.inner explain) code)
  Activity.inner (marshal result)

/-- The evaluation of one code. -/
def evaluation (explain : Act String) (code : String) (env : Option Obj) :
    Act (Except Fault HostValue) := do
  remark (.evaluating code)
  match Terminated.ofText code with
  | .error _ => return .error (.parse code)
  | .ok text => Activity.close do
    firstValue explain code env (← sourceExpressions code text)

/-- The guest's last message; a failure to fetch it is not explained again. -/
def diagnostic : Act String := do
  match ← evaluation (return Dialogue.unknownMessage) Dialogue.diagnosticCode none with
  | .ok (.text m) => return String.ofList (m.toList.filter (· != '\n'))
  | .ok v =>
    remark (.messageNotText v)
    return Dialogue.unknownMessage
  | .error f =>
    remark (.messageUnavailable f)
    return Dialogue.unknownMessage

/-- Evaluation between two looks at the depth of the root stack. -/
def evaluate (code : String) (env : Option Obj) : Act (Except Fault HostValue) := do
  let before ← call .depth
  let result ← evaluation diagnostic code env
  match before, ← call .depth with
  | some before, some after =>
    if before = after then
      return result
    else
      remark (.imbalance before after code)
      return .error (.violation (.imbalance before after))
  | _, _ => return result

end Definitions

variable {m : Machine} {h : Host} {w : World Machine} {x : Obj} {code : String} {text : Bytes}
  {env : Option Obj} {k n : Nat}

/-! ### Marshaling -/

theorem serves_charsText {b : Bytes} {Q : String → World Machine → Prop}
    (ho : m.object? x = some (.chars b)) (hQ : ∀ t, Q t ⟨m, h⟩) :
    Serves (exec (Dialogue.charsText x)) (Dialogue.charsText x) ⟨m, h⟩ Q :=
  serves_ask (call_chars ho) (fun _ => trivial) (serves_done (hQ _))

theorem serves_realText (y : Double) {Q : String → World Machine → Prop} (hQ : ∀ t, Q t w) :
    Serves (realText y) (Dialogue.realText y) w Q := by
  unfold realText Dialogue.realText
  split
  · exact serves_ask (call_isMissing y) (fun _ => trivial) (serves_done (hQ _))
  split
  · exact serves_done (hQ _)
  · refine fun _ => ⟨step_eq (roundedText_eq y), ?_⟩
    rintro _ _ ⟨rfl, rfl⟩
    exact hQ _

/-- A vector that is shown as text if it has one element only, which is then there to be read. -/
theorem serves_single {v : Value} {c : Act HostValue} {d : Dialogue HostValue}
    {Q : HostValue → World Machine → Prop} (ho : m.object? x = some v) (hQ : ∀ t, Q t ⟨m, h⟩)
    (hd : v.length = 1 → Serves c d ⟨m, h⟩ Q) :
    Serves (exec (Dialogue.single x) >>= fun one => if one = true then c else pure (.object x))
      ((Dialogue.single x).bind fun one => if one = true then d else .done (.object x))
      ⟨m, h⟩ Q := by
  have hone : Serves (exec (Dialogue.single x)) (Dialogue.single x) ⟨m, h⟩ fun one w' =>
      one = ((v.length : Int) == 1) ∧ w' = ⟨m, h⟩ :=
    serves_ask (call_length ho) (fun _ => trivial) (serves_done ⟨rfl, rfl⟩)
  refine hone.bind ?_
  rintro _ _ ⟨rfl, rfl⟩
  by_cases hv : v.length = 1
  · rw [if_pos (by simp [hv]), if_pos (by simp [hv])]
    exact hd hv
  · have hi : ¬ ((v.length : Int) == 1) = true := by
      rw [beq_iff_eq]
      omega
    rw [if_neg hi, if_neg hi]
    exact serves_done (hQ _)

/-- The first element of a list that has one element. -/
theorem index_zero_of_length {α : Type} {l : List α} (a : α) (hl : l.length = 1) :
    index l 0 = .ok (l.headD a) := by
  obtain ⟨b, rfl⟩ := List.length_eq_one_iff.mp hl
  rfl

theorem serves_marshal {v : Value} {Q : HostValue → World Machine → Prop}
    (ho : m.object? x = some v) (hQ : ∀ t, Q t ⟨m.marshaling v, h⟩) :
    Serves (marshal x) (Dialogue.marshal x) ⟨m, h⟩ Q := by
  unfold marshal
  simp only [Dialogue.marshal, Dialogue.call, Dialogue.bind_eq, Dialogue.bind, Dialogue.pure_eq]
  refine serves_ask (call_kindOf ho) (fun _ => trivial) ?_
  simp only [Kind.chars, Kind.strings, Kind.bytes, Kind.reals, Kind.integers, Kind.logicals]
  cases v with
  | nil | env | exprs | lang => exact serves_done (hQ _)
  | chars b =>
    exact (serves_charsText (Q := fun _ w' => w' = ⟨m, h⟩) ho fun _ => rfl).bind
      fun t w' hw => hw ▸ serves_done (hQ _)
  | strings l =>
    refine serves_ask (call_length ho) (fun _ => trivial) ?_
    cases l with
    | nil => exact serves_done (hQ _)
    | cons b bs =>
      have hb : (m.push (.chars b)).object? m.next = some (.chars b) :=
        Machine.object?_push_next _ _
      have hpos : 0 < ((Value.strings (b :: bs)).length : Int) := by simp [Value.length]
      rw [if_pos hpos, if_pos hpos]
      refine serves_ask (call_stringElement ho) (fun _ => trivial) ?_
      exact (serves_charsText (Q := fun _ w' => w' = ⟨m.push (.chars b), h⟩) hb fun _ => rfl).bind
        fun t w' hw => hw ▸ serves_done (hQ _)
  | bytes b =>
    refine serves_ask (call_length ho) (fun _ => trivial) ?_
    cases b with
    | nil => exact serves_done (hQ _)
    | cons b bs =>
      rw [if_neg (by simp [Value.length])]
      refine serves_ask (call_bytes ho) (fun _ => trivial) ?_
      refine serves_step (slice_eq (Nat.zero_le _) (by simp [Value.length])) (serves_done ?_)
      exact hQ _
  | reals l =>
    refine serves_single ho hQ fun hl => ?_
    refine serves_ask (call_reals ho) (fun _ => trivial) ?_
    refine serves_step (index_zero_of_length ⟨0⟩ hl) ?_
    exact (serves_realText (Q := fun _ w' => w' = ⟨m, h⟩) _ fun _ => rfl).bind
      fun t w' hw => hw ▸ serves_done (hQ _)
  | ints l =>
    refine serves_single ho hQ fun hl => ?_
    refine serves_ask (call_integers ho) (fun _ => trivial) ?_
    exact serves_step (index_zero_of_length 0 hl) (serves_done (hQ _))
  | lgls l =>
    refine serves_single ho hQ fun hl => ?_
    refine serves_ask (call_logicals ho) (fun _ => trivial) ?_
    exact serves_step (index_zero_of_length 0 hl) (serves_done (hQ _))

/-! ### From the text to its expressions -/

/-- Every release of roots, and every frame that may still release some, has its own object. -/
def Sound (k : Nat) (m : Machine) : Prop := m.unprotects + k ≤ m.heap.size

theorem sound_push {v : Value} (hs : Sound k m) : Sound (k + 1) (m.push v) := by
  unfold Sound at *
  rw [size_push]
  exact Nat.succ_le_succ hs

theorem Sound.mono {j : Nat} (hs : Sound k m) (hj : j ≤ k) : Sound j m :=
  Nat.le_trans (Nat.add_le_add_left hj _) hs

theorem sound_leak {y : Obj} (hs : Sound k m) : Sound k (m.leak y) := by
  unfold Machine.leak
  split <;> exact hs

theorem sound_marshaling {v : Value} (hs : Sound k m) : Sound k (m.marshaling v) := by
  unfold Machine.marshaling
  split
  · exact (sound_push hs).mono (Nat.le_succ k)
  · exact hs

theorem sound_release (hs : Sound (k + 1) m) : Sound k (m.release n) := by
  unfold Sound at *
  change m.unprotects + 1 + k ≤ m.heap.size
  omega

/-- The counter of a frame that is open has room. -/
theorem Sound.room (hs : Sound (k + 1) m) (hm : m.heap.size ≤ capacity) :
    m.unprotects < sizeTop := by
  unfold Sound capacity sizeTop at *
  omega

theorem sound_hold {y : Obj} (hs : Sound k m) : Sound k (m.hold y) := hs

theorem sound_leave {g : Globals} {t : String} (hs : Sound k m) : Sound k (m.leave g t) := hs

theorem sound_reading {es : List Expr} (hs : Sound k m) : Sound (k + 1) (m.reading text es) :=
  (sound_hold (sound_leak (sound_push (sound_hold (sound_push hs))))).mono (Nat.le_succ _)

/-- The text is read with two roots counted, and what it was read to has a first expression. -/
theorem runs_sourceExpressions (htext : (Utf8.decodeChars text).length ≤ capacity)
    (hs : Sound k m) :
    Runs (sourceExpressions code text) (Dialogue.sourceExpressions code text) 0 ⟨m, h⟩
      fun r n w => n = 2 ∧ Sound (k + 1) w.memory ∧
        ∀ exprs, r = .ok exprs → ∃ e es, w.memory.object? exprs = some (.exprs (e :: es)) := by
  refine runs_call_bind call_allocString (fun _ => trivial) ?_
  refine runs_root_bind (by decide) ?_
  refine runs_call_bind (call_setString [] text) (fun _ => trivial) ?_
  have ho : ((m.push (.strings [text])).hold m.next).object? m.next = some (.strings [text]) :=
    Machine.object?_push_next _ _
  have hready : Ready ((m.push (.strings [text])).hold m.next) (.parse m.next) := by
    intro es hes
    cases ho.symm.trans hes
    rw [sourceText_singleton]
    exact htext
  have hsource : Sound (k + 1) (m.push (.strings [text])) := sound_push hs
  rcases hp : Mini.parse (Utf8.decodeChars text) with why | es
  · refine runs_call_bind (call_parse_error ho hp) (fun _ => hready) ?_
    refine runs_root_bind (by decide) ?_
    rw [if_pos (statusOf_ne_parsedOk why), if_pos (statusOf_ne_parsedOk why)]
    exact runs_fail_bind ⟨rfl, hsource, nofun⟩
  · have hread : Sound (k + 1) (m.reading text es) := sound_reading hs
    refine runs_call_bind (call_parse_ok ho hp) (fun _ => hready) ?_
    refine runs_root_bind (by decide) ?_
    rw [if_neg (by simp), if_neg (by simp)]
    refine runs_call_bind (call_length object?_reading) (fun _ => trivial) ?_
    rcases es with _ | ⟨e, es⟩
    · have hzero : ((Value.exprs []).length : Int) = 0 := rfl
      rw [if_pos hzero, if_pos hzero]
      exact runs_fail_bind ⟨rfl, hread, nofun⟩
    · have hne : ¬ ((Value.exprs (e :: es)).length : Int) = 0 := by
        simp only [Value.length, List.length_cons]
        omega
      rw [if_neg hne, if_neg hne]
      have hok : ∀ exprs, (.ok (m.push (.strings [text])).next : Except Fault Obj) = .ok exprs →
          ∃ e' es', (m.reading text (e :: es)).object? exprs = some (.exprs (e' :: es')) := by
        rintro _ ⟨⟩
        exact ⟨e, es, object?_reading⟩
      split
      · exact runs_remark_bind (runs_pure ⟨rfl, hread, hok⟩)
      · exact runs_pure ⟨rfl, hread, hok⟩

/-! ### From the expressions to a value -/

/-- Whatever is true before and after the explanation of a failure. -/
def Explains (k : Nat) (explain : Act String) (d : Dialogue String) : Prop :=
  ∀ w, Sound k w.memory → Serves explain d w fun _ w' => Sound k w'.memory

variable {explain : Act String} {d : Dialogue String} {exprs : Obj} {e : Expr} {es : List Expr}

/-- One more root is counted, and the value is there to be marshaled, whatever it is. -/
theorem runs_firstValue (ho : m.object? exprs = some (.exprs (e :: es))) (hn : n < shortTop)
    (hs : Sound k m) (hx : Explains k explain d) :
    Runs (firstValue explain code env exprs) (Dialogue.firstValue d code env exprs) n ⟨m, h⟩
      fun _ _ w => Sound k w.memory := by
  -- Without an environment the guest is asked for its own first.
  suffices ∀ x, Runs (firstValue explain code (some x) exprs)
      (Dialogue.firstValue d code (some x) exprs) n ⟨m, h⟩ fun _ _ w => Sound k w.memory by
    cases env with
    | some x => exact this x
    | none => exact runs_call_bind call_globalEnv (fun _ => trivial) (this _)
  intro x
  refine runs_call_bind (call_element ho) (fun _ => trivial) ?_
  have hlang : (m.push (.lang e)).object? m.next = some (.lang e) := Machine.object?_push_next _ _
  have hs₁ : Sound k (m.push (.lang e)) := (sound_push hs).mono (Nat.le_succ k)
  rcases he : (m.push (.lang e)).outcomeIn x e with ⟨why | v, s⟩
  · rcases hwhy : why.panic? with _ | p
    · refine runs_call_bind (call_tryEval_error 0 hlang he hwhy) (fun _ => trivial) ?_
      refine runs_root_bind hn ?_
      rw [if_pos (by simp), if_pos (by simp)]
      refine (runs_inner (Q := fun r _ w => r.isOk ∧ Sound k w.memory)
        ((hx _ hs₁).mono fun _ _ hw => ⟨rfl, hw⟩)).bind ?_ ?_
      · rintro t j w ⟨-, hw⟩
        exact runs_fail_bind hw
      · rintro f j w ⟨hok, -⟩
        cases hok
    · exact runs_call_panic (call_tryEval_panic 0 hlang he hwhy) fun _ => trivial
  · refine runs_call_bind (call_tryEval_ok 0 hlang he) (fun _ => trivial) ?_
    refine runs_root_bind hn ?_
    rw [if_neg (by simp), if_neg (by simp)]
    refine runs_inner (serves_marshal (Machine.object?_push_next _ _) fun _ => ?_)
    exact sound_marshaling (sound_hold ((sound_push (sound_leave hs₁)).mono (Nat.le_succ k)))

/-! ### One evaluation -/

/-- A frame closes with room in the counter, and gives the object back that it had for it. -/
theorem serves_frame {α : Type} {c : Activity α} {f : Frame α}
    (hc : Runs c f 0 w fun _ _ w' => Sound (k + 1) w'.memory) :
    Serves (Activity.close c) (Frame.close f) w fun _ w' => Sound k w'.memory :=
  serves_close hc fun _ _ _ hs => ⟨hs.room, sound_release hs, fun _ => hs.mono (Nat.le_succ k)⟩

theorem serves_evaluation (hcode : code.toList.length ≤ capacity) (hs : Sound k w.memory)
    (hx : Explains (k + 1) explain d) :
    Serves (evaluation explain code env) (Dialogue.evaluation d code env) w
      fun _ w' => Sound k w'.memory := by
  refine (serves_remark (Q := fun _ w' => Sound k w'.memory) hs).bind ?_
  rintro _ ⟨m, h⟩ hs
  by_cases hc : '\x00' ∈ code.toList
  · obtain ⟨i, hi⟩ := Terminated.ofText_of_mem hc
    simp only [hi]
    exact serves_done hs
  simp only [Terminated.ofText_of_notMem hc]
  refine serves_frame ((runs_sourceExpressions ?_ hs).bind ?_ ?_)
  · rw [Utf8.decodeChars_encode]
    exact hcode
  · rintro exprs n ⟨m, h⟩ ⟨rfl, hs, hexprs⟩
    obtain ⟨e, es, ho⟩ := hexprs exprs rfl
    exact runs_firstValue ho (by decide) hs hx
  · rintro f n w ⟨-, hs, -⟩
    exact hs

/-- The text that asks for the last message is short. -/
theorem length_diagnosticCode : Dialogue.diagnosticCode.toList.length ≤ capacity := by decide

theorem serves_diagnostic : Explains k diagnostic Dialogue.diagnostic := by
  intro w hs
  have hunknown : Explains (k + 1) (pure Dialogue.unknownMessage)
      (.done Dialogue.unknownMessage) := fun _ hs => serves_done hs
  refine (serves_evaluation length_diagnosticCode hs hunknown).bind fun r w' hs => ?_
  rcases r with f | (t | y | b)
  · exact (serves_remark (Q := fun _ w => Sound k w.memory) hs).bind fun _ _ hs => serves_done hs
  · exact serves_done hs
  · exact (serves_remark (Q := fun _ w => Sound k w.memory) hs).bind fun _ _ hs => serves_done hs
  · exact (serves_remark (Q := fun _ w => Sound k w.memory) hs).bind fun _ _ hs => serves_done hs

/-- An evaluation with checks does what one without does. -/
theorem serves_evaluate (hcode : code.toList.length ≤ capacity) (hs : Sound k w.memory) :
    Serves (evaluate code env) (Dialogue.evaluate code env) w fun _ w' => Sound k w'.memory := by
  refine serves_ask call_depth (fun _ => trivial) ?_
  refine (serves_evaluation hcode hs serves_diagnostic).bind fun r w' hs => ?_
  refine serves_ask call_depth (fun _ => trivial) ?_
  dsimp only [Dialogue.bind]
  split
  · exact serves_done hs
  · exact (serves_remark (Q := fun _ w => Sound k w.memory) hs).bind fun _ _ hs => serves_done hs

end GuestRuntime.Checked
