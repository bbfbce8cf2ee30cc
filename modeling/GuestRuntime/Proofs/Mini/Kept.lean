import GuestRuntime.Proofs.Dialogue.Abides
import GuestRuntime.Proofs.Mini.Heap
import GuestRuntime.Proofs.Mini.Lifecycle

/-!
What stays of an evaluation. An evaluation writes to one object, the string vector that it has made
for its own text, so whatever was in the heap before is there afterwards, unchanged:

        heap before │ text │ expressions │ first │ value │ …
        └── kept ───┘  └─ written

Hence an object that an evaluation answered with is read the same after anything that is done with
the session later. Main statement: `evaluate_kept`.
-/

namespace GuestRuntime.Mini

open Dialogue TheGuest Machine

/-- Elements are set only of vectors that were made before, and what is rooted is what was to be. -/
def ownWrites : Dialogue.Rule where
  permits past e := ∀ w ∈ writes e, ∃ n, ⟨.allocStrings n, w.vector⟩ ∈ past
  admits x :=
    match x.entry, x.answer with
    | .protect y, z => z = y
    | _, _ => True

/-- The dialogue writes to nothing but what was made in it. -/
def Careful {α : Type} (d : Dialogue α) : Prop := ∀ past, d.Abides ownWrites past fun _ _ => True

/-- The same of an activity. -/
def CarefulFrame {α : Type} (f : Frame α) : Prop :=
  ∀ n past, f.Abides ownWrites n past fun _ _ _ => True

variable {α β : Type} {d : Dialogue α} {f : Frame α} {e : Entry} {code : String} {env : Option Obj}
  {m₀ : Machine} {w : World Machine} {past : List Exchange} {Q : Goal α}

/-! ### Dialogues that are careful -/

theorem permitted_of_writes (he : writes e = []) : ownWrites.permits past e := by
  intro w hw
  rw [he] at hw
  cases hw

theorem careful_done (a : α) : Careful (.done a) := fun _ => trivial

theorem careful_ask {held : List Nat} {k : e.Answer → Dialogue α} (he : writes e = [])
    (hk : ∀ x, Careful (k x)) : Careful (.ask e held k) := fun _ =>
  ⟨permitted_of_writes he, fun x _ => hk x _⟩

theorem Careful.bind {k : α → Dialogue β} (h : Careful d) (hk : ∀ a, Careful (k a)) :
    Careful (d.bind k) := fun past =>
  abides_bind.mpr ((h past).mono fun a past' _ => hk a past')

theorem careful_ite {p : Prop} [Decidable p] {d' : Dialogue α} (h : Careful d) (h' : Careful d') :
    Careful (if p then d else d') := by
  split
  · exact h
  · exact h'

theorem careful_charsText (x : Obj) : Careful (charsText x) :=
  careful_ask rfl fun b => by cases b <;> exact careful_done _

theorem careful_realText (y : Double) : Careful (realText y) := by
  refine careful_ite (careful_ask rfl fun b => ?_) (careful_ite (careful_done _) (careful_done _))
  cases b <;> exact careful_done _

theorem careful_single (x : Obj) : Careful (single x) := careful_ask rfl fun _ => careful_done _

theorem careful_marshal (x : Obj) : Careful (marshal x) := by
  simp only [marshal, Dialogue.call, bind_eq, Dialogue.bind, pure_eq]
  have htext (y : Obj) : Careful ((charsText y).bind fun t => .done (HostValue.text t)) :=
    (careful_charsText y).bind fun _ => careful_done _
  have hsingle {d : Dialogue HostValue} (hd : Careful d) :
      Careful ((single x).bind fun one => if one = true then d else .done (.object x)) :=
    (careful_single x).bind fun _ => careful_ite hd (careful_done _)
  refine careful_ask rfl fun kind => ?_
  refine careful_ite (htext x) (careful_ite ?_ (careful_ite ?_ (careful_ite ?_ (careful_ite ?_
    (careful_ite ?_ (careful_done _))))))
  · exact careful_ask rfl fun n => careful_ite (careful_ask rfl htext) (careful_done _)
  · exact careful_ask rfl fun n => careful_ite (careful_done _)
      (careful_ask rfl fun _ => careful_done _)
  · exact hsingle (careful_ask rfl fun l => (careful_realText _).bind fun _ => careful_done _)
  · exact hsingle (careful_ask rfl fun _ => careful_done _)
  · exact hsingle (careful_ask rfl fun _ => careful_done _)

/-! ### Frames that are careful -/

theorem CarefulFrame.bind {k : α → Frame β} (h : CarefulFrame f) (hk : ∀ a, CarefulFrame (k a)) :
    CarefulFrame (f >>= k) := fun n past =>
  (h n past).bind (fun a m past' _ => hk a m past') fun _ _ _ _ => trivial

theorem carefulFrame_ite {p : Prop} [Decidable p] {f' : Frame α} (h : CarefulFrame f)
    (h' : CarefulFrame f') : CarefulFrame (if p then f else f') := by
  split
  · exact h
  · exact h'

theorem careful_inner (h : Careful d) : CarefulFrame (Frame.inner d) := fun _ past =>
  Frame.abides_inner (h past)

theorem careful_call (he : writes e = []) : CarefulFrame (Frame.call e) :=
  careful_inner (careful_ask he fun _ => careful_done _)

theorem careful_root (x : Obj) : CarefulFrame (Frame.root x) := fun _ _ =>
  ⟨permitted_of_writes rfl, fun _ _ => trivial⟩

theorem careful_fail (why : Fault) : CarefulFrame (Frame.fail why : Frame α) := fun _ _ => trivial

theorem careful_pure (a : α) : CarefulFrame (pure a) := fun _ _ => trivial

theorem careful_remark (n : Note) : CarefulFrame (Frame.remark n) := fun _ _ => trivial

theorem careful_close (h : CarefulFrame f) : Careful f.close := by
  intro past
  refine abides_bind.mpr (Dialogue.Abides.mono (h 0 past) fun p past' _ => ?_)
  have hrelease : Careful (if 0 < p.2 then
      .ask (.unprotect p.2) [] fun _ => .done p.1 else .done p.1 : Dialogue (Except Fault α)) :=
    careful_ite (careful_ask rfl fun _ => careful_done _) (careful_done _)
  exact hrelease past'

/-- The text goes to a vector that is made for it. -/
theorem careful_sourceExpressions (code : String) (text : Bytes) :
    CarefulFrame (sourceExpressions code text) := by
  intro n past
  refine .call_bind (permitted_of_writes rfl) fun source _ => ?_
  refine .root_bind (permitted_of_writes rfl) fun x hx => ?_
  rw [show x = source from hx]
  refine .call_bind ?_ fun _ _ => ?_
  · intro w hw
    obtain rfl := List.mem_singleton.mp hw
    exact ⟨1, by simp⟩
  have hsome (exprs : Obj) : CarefulFrame (do
      let n ← Frame.call (.length exprs)
      if n = 0 then
        Frame.fail (.parse code)
      if 1 < n then
        Frame.remark (.extraExpressions n code)
      return exprs) := by
    refine (careful_call rfl).bind fun n => ?_
    have hmore := carefulFrame_ite (p := 1 < n)
      ((careful_remark (.extraExpressions n code)).bind fun _ => careful_pure exprs)
      (careful_pure exprs)
    exact carefulFrame_ite ((careful_fail _).bind fun _ => hmore) hmore
  refine CarefulFrame.bind (careful_call rfl) (fun p => ?_) _ _
  refine (careful_root p.2).bind fun exprs => ?_
  exact carefulFrame_ite ((careful_fail _).bind fun _ => hsome exprs) (hsome exprs)

theorem careful_firstValue {explain : Dialogue String} (h : Careful explain) (code : String)
    (env : Option Obj) (exprs : Obj) : CarefulFrame (firstValue explain code env exprs) := by
  have hvalue (env : Obj) : CarefulFrame (firstValue explain code (some env) exprs) := by
    refine (careful_call rfl).bind fun expr => ?_
    refine (careful_call rfl).bind fun p => ?_
    refine (careful_root p.2).bind fun result => ?_
    refine carefulFrame_ite ?_ (careful_inner (careful_marshal result))
    refine (careful_inner h).bind fun _ => ?_
    exact (careful_fail _).bind fun _ => careful_inner (careful_marshal result)
  cases env with
  | none => exact (careful_call rfl).bind hvalue
  | some env => exact hvalue env

theorem careful_evaluation {explain : Dialogue String} (h : Careful explain) (code : String)
    (env : Option Obj) : Careful (evaluation explain code env) := by
  simp only [evaluation, remark, Dialogue.bind_eq, Dialogue.bind]
  intro past
  cases Terminated.ofText code with
  | error i => trivial
  | ok text =>
    exact careful_close ((careful_sourceExpressions code text).bind fun exprs =>
      careful_firstValue h code env exprs) past

theorem careful_diagnostic : Careful diagnostic := by
  have hunknown : Careful (return unknownMessage) := careful_done unknownMessage
  have hasked : Careful (evaluation (return unknownMessage) diagnosticCode none) :=
    careful_evaluation hunknown _ _
  rw [diagnostic, Dialogue.bind_eq]
  refine hasked.bind fun r => ?_
  rcases r with why | (t | b | x)
  all_goals exact fun _ => trivial

/-- An evaluation is careful, whatever it evaluates and whatever comes of it. -/
theorem careful_evaluate (code : String) (env : Option Obj) : Careful (evaluate code env) := by
  simp only [evaluate, Dialogue.call, Dialogue.bind_eq, Dialogue.bind]
  refine careful_ask rfl fun before => ?_
  refine (careful_evaluation careful_diagnostic code env).bind fun result => ?_
  refine careful_ask rfl fun after => ?_
  rcases before with _ | before
  · exact careful_done _
  rcases after with _ | after
  · exact careful_done _
  exact careful_ite (careful_done _) fun _ => trivial

/-! ### With the mini guest -/

/-- A call that answers with a vector of strings has made it. -/
theorem call_allocStrings_ok {n : Int} {x : Obj} {w' : World Machine}
    (hc : w.call it (.allocStrings n) = (.ok x, w')) : x = w.memory.next := by
  obtain ⟨m, h⟩ := w
  by_cases hn : n.toNat * stringSize ≤ memoryTop
  · rw [call_allocStrings hn] at hc
    exact (Except.ok.inj (congrArg Prod.fst hc)).symm
  · rw [call_of_reply (allocStrings_of_not_le hn)] at hc
    cases congrArg Prod.fst hc

theorem keeps_unwind {held : List Nat} (hw : Keeps [] m₀ w.memory) :
    Keeps [] m₀ (unwind it held w).memory := by
  induction held generalizing w with
  | nil => exact hw
  | cons n held ih => exact ih (hw.trans (call_appends (.unprotect n) w.memory).content)

theorem ownWrites_admitted : ownWrites.Admitted it := by
  rintro e x ⟨m, h⟩ w' hc
  cases e with
  | protect y => exact (Except.ok.inj (congrArg Prod.fst hc)).symm
  | _ => trivial

/-- After a dialogue that writes to nothing else than what it made, what was there before is as it
was, even if the guest panicked. -/
theorem keeps_of_abides (h : d.Abides ownWrites past Q) (hw : Keeps [] m₀ w.memory)
    (hpast : ∀ n x, ⟨.allocStrings n, x⟩ ∈ past → m₀.object? x = none) :
    Keeps [] m₀ (d.run it w).2.memory := by
  induction d generalizing past w with
  | done a => exact hw
  | note n d ih => exact ih h hw hpast
  | ask e held k ih =>
    have hcall := call_appends e w.memory
    have hkept : Keeps [] m₀ (w.call it e).2.memory := by
      intro x v hx
      refine hcall.content.of_other (hw x v hx) fun y hy hyx => ?_
      obtain ⟨n, hmade⟩ := h.1 y hy
      rw [hyx] at hmade
      exact absurd (hx.symm.trans (hpast n x hmade)) (by simp)
    rcases hc : w.call it e with ⟨p | x, w₁⟩
    · simp only [Dialogue.run, hc]
      rw [hc] at hkept
      exact keeps_unwind hkept
    · simp only [Dialogue.run, hc]
      rw [hc] at hkept
      refine ih x (h.2 x (ownWrites_admitted e x w w₁ hc)) hkept fun n y hy => ?_
      rcases List.mem_append.mp hy with hold | hnew
      · exact hpast n y hold
      · cases List.mem_singleton.mp hnew
        obtain rfl := call_allocStrings_ok hc
        exact object?_of_size_lt (Nat.lt_succ_of_le hw.size_le)

theorem Careful.keeps (h : Careful d) (w : World Machine) :
    Keeps [] w.memory (d.run it w).2.memory :=
  keeps_of_abides (h []) (fun _ _ hx => hx) (by simp)

variable {s t : MiniSession} {x : Obj}

theorem converse_keeps (h : Careful d) (s : MiniSession) (g : TheGuest) :
    Keeps [] s.world.memory (s.converse g d).2.world.memory := h.keeps s.world

theorem start_keeps (s : MiniSession) : Keeps [] s.world.memory s.start.2.world.memory := by
  obtain ⟨r, s₁, hstart, hst⟩ := start_started s
  rw [hstart]
  cases hst <;> exact keeps_of_heap rfl

theorem evaluate_keeps (s : MiniSession) (code : String) (env : Option Obj) :
    Keeps [] s.world.memory (s.evaluate code env).2.world.memory := by
  have hkept := start_keeps s
  obtain ⟨r, s₁, hstart, -⟩ := start_started s
  rw [hstart] at hkept
  unfold Session.evaluate
  rw [hstart]
  cases r with
  | error why => exact hkept
  | ok hd =>
    dsimp only
    split
    · exact hkept.trans (converse_keeps (careful_evaluate code env) s₁ _)
    · exact hkept

theorem careful_tearDown (fatal : Bool) : Careful (tearDown fatal) := by
  simp only [tearDown, Dialogue.call, Dialogue.bind_eq, Dialogue.bind]
  iterate 6 refine careful_ask rfl fun _ => ?_
  exact careful_done _

theorem stop_keeps (s : MiniSession) (fatal : Bool) :
    Keeps [] s.world.memory (s.stop fatal).2.world.memory := by
  have hkept (g : TheGuest) := converse_keeps (careful_tearDown fatal) s g
  unfold Session.stop
  split
  · exact keeps_of_heap rfl
  · exact keeps_of_heap rfl
  · exact keeps_of_heap rfl
  · next g n hl =>
    specialize hkept g
    rcases hc : s.converse g (tearDown fatal) with ⟨p | a, s₁⟩
    · rw [hc] at hkept
      exact hkept
    · rw [hc] at hkept
      exact hkept

/-- No operation of a session changes an object that is there. -/
theorem perform_keeps (s : MiniSession) (op : Op) :
    Keeps [] s.world.memory (perform s op).2.world.memory := by
  cases op with
  | start => exact start_keeps s
  | evaluate code env => exact evaluate_keeps s code env
  | stop fatal => exact stop_keeps s fatal
  | leak | messages mode => exact keeps_of_heap rfl

theorem run_keeps (s : MiniSession) (ops : List Op) :
    Keeps [] s.world.memory (run s ops).session.world.memory := by
  refine run_induction (P := fun r => Keeps [] s.world.memory r.session.world.memory) ?_ ?_ ops
  · exact keeps_of_heap rfl
  · intro r op h
    exact h.trans (perform_keeps r.session op)

/-- A value that stays with the guest. -/
theorem marshaled_object {v : Value} {y : Obj} (h : v.marshaled x = .object y) : y = x := by
  unfold Value.marshaled at h
  split at h <;> cases h
  rfl

/-- An object that an evaluation answered with is there, and reads the same after whatever is done
with the session later. -/
theorem evaluate_kept (h : s.evaluate code env = (.ok (.ok (.object x)), t)) :
    ∃ v, t.world.memory.object? x = some v ∧
      ∀ ops, (run t ops).session.world.memory.object? x = some v := by
  suffices ∃ v, t.world.memory.object? x = some v by
    obtain ⟨v, hv⟩ := this
    exact ⟨v, hv, fun ops => run_keeps t ops x v hv⟩
  rcases evaluate_cases s code env with ⟨f, s₁, -, heval, -⟩ | ⟨hd, s₁, g, -, hrun, heval, -⟩
  · rw [heval] at h
    cases h
  · obtain ⟨w, heval₁, hw⟩ := evaluate_running hrun code env
    obtain ⟨hanswer, rfl⟩ := Prod.mk.inj (heval₁.symm.trans (heval.symm.trans h))
    obtain ⟨r, hr, hvalue⟩ := checked_eq_ok.mp hanswer
    split at hvalue
    · obtain ⟨v, u, ho, hv⟩ := answered_eq_value.mp (hvalue ▸ hr)
      rw [marshaled_object hv.symm]
      exact ⟨v, hw.stands v u ho⟩
    · cases hvalue

end GuestRuntime.Mini
