import GuestRuntime.Proofs.Dialogue.Met
import GuestRuntime.Proofs.Mini.Explained
import GuestRuntime.Proofs.Mini.Regular

/-!
Regular values throughout. Expressions come into the memory by a parse alone and so have the shape
of what is read; what is evaluated are such expressions, so the globals stay regular and the last
message is one that can be sent. Every call keeps that, hence every dialogue, hence every operation:

        parse ──▶ expressions, well shaped ──evaluation──▶ regular values, decent messages

Main statements: `invariant_isRegular`, `Reached.isRegular` and `reached_onlyRegular`.
-/

namespace GuestRuntime.Mini

open Dialogue TheGuest Machine Terminated

/-- The expressions in it have the shape of what is read. -/
def Value.IsFormed : Value → Prop
  | .exprs es => ∀ e ∈ es, e.IsShaped
  | .lang e => e.IsShaped
  | _ => True

/-- What is bound is regular, the last message can be sent, and the expressions are well shaped. -/
structure Machine.IsRegular (m : Machine) : Prop where
  globals : m.globals.IsRegular
  lastError : IsSendable m.lastError
  formed : ∀ v ∈ m.heap, v.IsFormed

variable {m m' : Machine} {v : Value} {x : Obj} {e : Expr} {s : MiniSession}

/-! ### One call -/

theorem Value.IsRegular.isFormed (h : v.IsRegular) : v.IsFormed := by
  cases h <;> trivial

/-- Three fields are all it depends on. -/
theorem Machine.IsRegular.congr (h : m.IsRegular) (hg : m'.globals = m.globals)
    (hl : m'.lastError = m.lastError) (hh : m'.heap = m.heap) : m'.IsRegular :=
  ⟨hg ▸ h.globals, hl ▸ h.lastError, hh ▸ h.formed⟩

theorem Machine.IsRegular.push (h : m.IsRegular) (hv : v.IsFormed) : (m.push v).IsRegular where
  globals := h.globals
  lastError := h.lastError
  formed u hu := by
    rcases Array.mem_push.mp hu with hu | rfl
    · exact h.formed u hu
    · exact hv

theorem Machine.IsRegular.object (h : m.IsRegular) (hx : m.object? x = some v) : v.IsFormed := by
  unfold object? at hx
  split at hx
  · cases hx
  · exact h.formed v (Array.mem_of_getElem? hx)

theorem isRegular_withObject {α : Type} {k : Value → Step α} (h : m.IsRegular)
    (hk : ∀ v, v.IsFormed → (k v m).memory.IsRegular) : (withObject x k m).memory.IsRegular := by
  unfold withObject
  split
  · next v hv => exact hk v (h.object hv)
  · exact h

theorem isRegular_elementAt {α β : Type} {l : List β} {i : Int} {k : β → Step α} (h : m.IsRegular)
    (hk : ∀ b ∈ l, (k b m).memory.IsRegular) : (elementAt l i k m).memory.IsRegular := by
  unfold elementAt
  split
  · next b hb =>
    split at hb
    · cases hb
    · exact hk b (List.mem_of_getElem? hb)
  · exact h

theorem isRegular_setString (h : m.IsRegular) (i : Int) (text : Bytes) :
    (setString x i text m).memory.IsRegular := by
  unfold setString
  split
  · split
    · refine ⟨h.globals, h.lastError, fun v hv => ?_⟩
      rcases Array.mem_or_eq_of_mem_setIfInBounds hv with hv | rfl
      · exact h.formed v hv
      · trivial
    · exact h
  · exact h

/-- What is parsed is well shaped. -/
theorem isRegular_parseStrings (h : m.IsRegular) (es : List Bytes) :
    (parseStrings es m).memory.IsRegular := by
  unfold parseStrings
  split
  · next exprs hexprs =>
    have hpush : (m.push (.exprs exprs)).IsRegular := h.push (parse_isShaped hexprs)
    exact hpush.congr (globals_leak _ _) (lastError_leak _ _) (heap_leak _ _)
  · exact h

/-- The evaluation of a well shaped expression. -/
theorem Machine.IsRegular.outcome (h : m.IsRegular) (he : e.IsShaped) {env : Obj}
    {r : Except EvalError Value} {t : Scratch} (ho : m.outcomeIn env e = (r, t)) :
    t.globals.IsRegular ∧ (∀ v, r = .ok v → v.IsRegular) ∧
      ∀ why, r = .error why → IsSendable why.message := by
  have hdecent := ((outcomeIn_isShaped he ho).2 h.globals.isPlain).1
  have hfailed : ∀ why, r = .error why → IsSendable why.message := by
    rintro why rfl
    exact hdecent
  unfold outcomeIn at ho
  split at ho
  · obtain ⟨ht, hv⟩ := upholds_eval e _ h.globals r t ho
    exact ⟨ht, hv, hfailed⟩
  · cases ho
    exact ⟨h.globals, nofun, hfailed⟩

theorem isSendable_errorText {why : EvalError} (h : IsSendable why.message) :
    IsSendable (errorText why) :=
  isSendable_append (isSendable_append (by decide) h) (by decide)

theorem isRegular_tryEval (h : m.IsRegular) (he : e.IsShaped) (env : Obj) :
    (tryEval e env m).memory.IsRegular := by
  unfold tryEval
  split
  · next v t ho =>
    obtain ⟨ht, hv, -⟩ := h.outcome he ho
    have hleft : (m.leave t.globals m.lastError).IsRegular := ⟨ht, h.lastError, h.formed⟩
    exact hleft.push (hv v rfl).isFormed
  · next why t ho =>
    obtain ⟨ht, -, hwhy⟩ := h.outcome he ho
    unfold failing
    split
    · exact ⟨ht, h.lastError, h.formed⟩
    · exact ⟨ht, isSendable_errorText (hwhy why rfl), h.formed⟩

/-- Every call keeps the memory regular, answered or not. -/
theorem invariant_isRegular : Invariant it Machine.IsRegular := by
  intro e m h
  change (Machine.call e m).memory.IsRegular
  cases e with
  | boot arguments | unprotect n | finish fatal =>
    rw [Machine.call]
    dsimp only
    split <;> exact h.congr rfl rfl rfl
  | allocStrings n =>
    rw [Machine.call]
    split
    · exact h.push trivial
    · exact h
  | setString x i text => exact isRegular_setString h i text
  | parse x =>
    refine isRegular_withObject h fun v _ => ?_
    cases v with
    | strings es => exact isRegular_parseStrings h es
    | _ => exact h
  | element x i =>
    refine isRegular_withObject h fun v hv => ?_
    cases v with
    | exprs es => exact isRegular_elementAt h fun e he => h.push (hv e he)
    | _ => exact h
  | stringElement x i =>
    refine isRegular_withObject h fun v _ => ?_
    cases v with
    | strings es => exact isRegular_elementAt h fun b _ => h.push trivial
    | _ => exact h
  | tryEval x env flag =>
    refine isRegular_withObject h fun v hv => ?_
    cases v with
    | lang e => exact isRegular_tryEval h hv env
    | _ => exact h.push hv
  | length x | kindOf x => exact isRegular_withObject h fun v _ => h
  | chars x | bytes x | integers x | logicals x | reals x =>
    exact isRegular_withObject h fun v _ => by cases v <;> exact h
  | _ => exact h.congr rfl rfl rfl

/-! ### Sessions -/

theorem Started.isRegular {r : Except Fault Handle} {s' : MiniSession} (hst : Started s r s')
    (h : s.world.memory.IsRegular) : s'.world.memory.IsRegular := by
  cases hst <;> exact h.congr rfl rfl rfl

theorem start_isRegular (h : s.world.memory.IsRegular) : s.start.2.world.memory.IsRegular := by
  obtain ⟨r, s₁, hstart, hst⟩ := start_started s
  rw [hstart]
  exact hst.isRegular h

theorem converse_isRegular {α : Type} (h : s.world.memory.IsRegular) (g : TheGuest)
    (d : Dialogue α) : (s.converse g d).2.world.memory.IsRegular :=
  run_invariant invariant_isRegular d h

theorem evaluate_isRegular (h : s.world.memory.IsRegular) (code : String) (env : Option Obj) :
    (s.evaluate code env).2.world.memory.IsRegular := by
  have hstarted := start_isRegular h
  unfold Session.evaluate
  rcases hstart : s.start with ⟨p | f | hd, s₁⟩ <;> rw [hstart] at hstarted
  · exact hstarted
  · exact hstarted
  · dsimp only
    split
    · exact converse_isRegular hstarted _ _
    · exact hstarted

theorem stop_isRegular (h : s.world.memory.IsRegular) (fatal : Bool) :
    (s.stop fatal).2.world.memory.IsRegular := by
  unfold Session.stop
  split
  · exact h
  · exact h
  · exact h
  · next g n hl =>
    have hended := converse_isRegular h g (tearDown fatal)
    rcases hc : s.converse g (tearDown fatal) with ⟨p | a, s₁⟩ <;> rw [hc] at hended
    · exact hended
    · exact hended

theorem perform_isRegular (h : s.world.memory.IsRegular) (op : Op) :
    (perform s op).2.world.memory.IsRegular := by
  cases op with
  | start => exact start_isRegular h
  | evaluate code env => exact evaluate_isRegular h code env
  | stop fatal => exact stop_isRegular h fatal
  | leak | messages mode => exact h.congr rfl rfl rfl

theorem isRegular_newSession (p : Provider) (running : Bool) (host : Host) :
    (newSession p running host).world.memory.IsRegular where
  globals b hb := by cases hb
  lastError := (by decide : IsSendable "")
  formed v hv := by
    rcases (by simpa [newSession] using hv : v = .env ∨ v = .nil) with rfl | rfl
    · trivial
    · trivial

theorem Reached.isRegular (h : Reached s) : s.world.memory.IsRegular := by
  obtain ⟨p, running, host, ops, rfl⟩ := h
  exact run_induction (P := fun r => r.session.world.memory.IsRegular)
    (isRegular_newSession p running host) (fun r op hr => perform_isRegular hr op) ops

/-! ### Evaluations inside an operation -/

/-- While the code is evaluated, the guest gets the call `e` in the world `w`. -/
def Gets (s : MiniSession) (code : String) (env : Option Obj) (e : Entry) (w : World Machine) :
    Prop :=
  ∃ hd s₁ g hd₁, s.start = (.ok (.ok hd), s₁) ∧ s₁.lifecycle = .running g hd₁ ∧
    Meets g (Dialogue.evaluate code env) s₁.world e w

theorem Gets.isRegular {code : String} {env : Option Obj} {e : Entry} {w : World Machine}
    (h : Gets s code env e w) (hs : s.world.memory.IsRegular) : w.memory.IsRegular := by
  obtain ⟨hd, s₁, g, hd₁, hstart, -, hmeets⟩ := h
  have hstarted := start_isRegular hs
  rw [hstart] at hstarted
  exact hmeets.invariant invariant_isRegular hstarted

/-- The value of part `p` of an expression that is evaluated in the memory `m`. -/
def IsPartValue (m : Machine) (e p : Expr) (v : Value) : Prop :=
  ∃ t t', Reaches m.scratch e t p ∧ (eval p).run t = (.ok v, t')

/-- What a session has of values and messages, and what evaluations make in it. -/
structure OnlyRegular (s : MiniSession) : Prop where
  globals : s.world.memory.globals.IsRegular
  lastError : IsClean (Utf8.encode s.world.memory.lastError)
  /-- At every call that a further evaluation makes. -/
  inside : ∀ code env e w, Gets s code env e w →
    w.memory.globals.IsRegular ∧ IsClean (Utf8.encode w.memory.lastError)
  /-- The value of every part of every expression that is evaluated then. -/
  parts : ∀ code env x y flag w e p v, Gets s code env (.tryEval x y flag) w →
    w.memory.object? x = some (.lang e) → IsPartValue w.memory e p v → v.IsRegular
  /-- No reading, sending or receiving changes a string of a regular value. -/
  kept : ∀ v : Value, v.IsRegular → ∀ es, v = .strings es → ∀ b ∈ es,
    Utf8.encode (Utf8.decodeLossy b) = b ∧ upToNul b = b ∧ ofText (Utf8.decodeLossy b) = .ok b

/-- In every session that operations have led to, every global is regular and the last message is
clean, and so they are throughout every further evaluation, and every value in it is regular. -/
theorem reached_onlyRegular (h : Reached s) : OnlyRegular s where
  globals := h.isRegular.globals
  lastError := isClean_encode h.isRegular.lastError
  inside code env e w hw :=
    have hregular := hw.isRegular h.isRegular
    ⟨hregular.globals, isClean_encode hregular.lastError⟩
  parts code env x y flag w e p v hw _ hv := by
    obtain ⟨t, t', hreach, hval⟩ := hv
    exact hreach.value_isRegular (hw.isRegular h.isRegular).globals hval
  kept v hv es hes b hb := by
    subst hes
    cases hv with
    | strings hclean =>
      have hb := hclean b hb
      exact ⟨hb.decoded, hb.upToNul_eq, hb.ofText_eq⟩

/-- A session that was started by an evaluation, which bound a name; another failed since. -/
def boundSession : MiniSession :=
  (run (newSession {} false bareHost)
    [.evaluate "x <- c('a', TRUE)" none, .evaluate "stop(x)" none]).session

theorem reached_onlyRegular_bound : Reached boundSession ∧ OnlyRegular boundSession ∧
    boundSession.world.memory.globals.map Prod.fst = ["x"] := by
  have hreached : Reached boundSession := ⟨{}, false, bareHost, _, by rw [boundSession]⟩
  exact ⟨hreached, reached_onlyRegular hreached, by decide +kernel⟩

end GuestRuntime.Mini
