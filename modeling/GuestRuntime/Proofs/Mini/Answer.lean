import GuestRuntime.Proofs.Mini.Diagnostic

/-!
Evaluation on the mini guest as a function of the world: the answer, the number of expressions
evaluated and what can be seen afterwards, together with the root stack, whose change turns any
answer into a violation. It panics in no world but where the first expression asks for more memory
than there can be, and then the frames are closed all the same. Main statement: `run_evaluate`.
-/

namespace GuestRuntime.Mini

open Dialogue TheGuest Machine

variable {code : String} {env : Option Obj}

/-- The evaluation of a code's first expression: what comes of it, and what it leaves. -/
def outcome? (w : World Machine) (code : String) (env : Option Obj) :
    Option (Except EvalError Value × Scratch) :=
  (first? code).map (w.memory.outcomeIn (environment env))

/-- The answer to a code, or the panic at it. -/
def answered (w : World Machine) (code : String) (env : Option Obj) :
    Except Panic (Except Fault HostValue) :=
  match outcome? w code env with
  | none => .ok (.error (.parse code))
  | some (.ok v, _) => .ok (.ok (v.marshaled w.memory.valueAt))
  | some (.error why, s) =>
    match why.panic? with
    | some p => .error p
    | none => .ok (.error (.runtime (afterFailure w why s).memory.explanation code))

/-- The world after a code, objects and roots aside. -/
def afterCode (w : World Machine) (code : String) (env : Option Obj) : World Machine :=
  match outcome? w code env with
  | none => w
  | some (.ok _, s) => afterValue w s
  | some (.error why, s) =>
    match why.panic? with
    | some _ => afterValue w s
    | none => afterExplanation (afterFailure w why s)

/-- How many expressions are evaluated for a code: its first, and one that explains a failure. A
panic leaves none to its end. -/
def evaluatedFor (w : World Machine) (code : String) (env : Option Obj) : Nat :=
  match outcome? w code env with
  | none => 0
  | some (.ok _, _) => 1
  | some (.error why, _) =>
    match why.panic? with
    | some _ => 0
    | none => 2

/-- The value of a code, if it has one, stands where the answer says. -/
def Stands (w w' : World Machine) (code : String) (env : Option Obj) : Prop :=
  ∀ v s, outcome? w code env = some (.ok v, s) → w'.memory.object? w.memory.valueAt = some v

theorem visible_afterExplanation {w w' : World Machine} (hw : visible w = visible w') :
    visible (afterExplanation w) = visible (afterExplanation w') := by
  obtain ⟨hg, hl, hm, -, -⟩ := Visible.mk.inj hw
  have hs : w.memory.scratch = w'.memory.scratch := by rw [scratch, scratch, hg, hl, hm]
  unfold afterExplanation
  rw [hm, hs]
  split
  · exact visible_afterFailure hw _ _
  · exact hw

theorem explanation_of_visible {w w' : World Machine} (hw : visible w = visible w') :
    w.memory.explanation = w'.memory.explanation := by
  obtain ⟨-, hl, hm, -, -⟩ := Visible.mk.inj hw
  rw [explanation, explanation, hm, hl]

theorem answered_eq_value {w : World Machine} {a : HostValue} :
    answered w code env = .ok (.ok a) ↔
      ∃ v s, outcome? w code env = some (.ok v, s) ∧ a = v.marshaled w.memory.valueAt := by
  unfold answered
  split
  · next ho => simp [ho]
  · next ho => simp [ho, eq_comm]
  · next why s ho => cases hwhy : why.panic? <;> simp [ho]

/-- There is no other panic than this one. -/
theorem answered_eq_error {w : World Machine} {p : Panic} :
    answered w code env = .error p ↔
      p = .capacityOverflow ∧ ∃ s, outcome? w code env = some (.error .oversized, s) := by
  unfold answered
  split
  · next ho => simp [ho]
  · next ho => simp [ho]
  · next why s ho =>
    cases hwhy : why.panic? with
    | none =>
      have : why ≠ .oversized := by
        rintro rfl
        cases hwhy
      simp [ho, this]
    | some q =>
      obtain ⟨rfl, rfl⟩ := EvalError.panic?_eq_some.mp hwhy
      simp [ho, eq_comm]

/-- What is true after a code, given the calls that were answered for it. -/
structure Settled (w : World Machine) (code : String) (env : Option Obj) (xs : List Exchange)
    (w' : World Machine) : Prop where
  held : w.memory.Held 0 (parses xs) w'.memory
  evaluations : Dialogue.evaluations xs = evaluatedFor w code env
  visible : Mini.visible w' = Mini.visible (afterCode w code env)
  stands : Stands w w' code env

theorem ends_of_unparsed {w : World Machine} (ho : outcome? w code env = none) :
    Ends it (evaluation diagnostic code env) w fun r xs w' =>
      r = .error (.parse code) ∧ Settled w code env xs w' := by
  obtain ⟨m, h⟩ := w
  refine (ends_evaluation_none (Option.map_eq_none_iff.mp ho)).mono ?_
  rintro r xs w ⟨hw, rfl, hxv, hvis⟩
  refine ⟨rfl, hw, ?_, ?_, ?_⟩
  · rw [hxv, evaluatedFor, ho]
  · rw [hvis, afterCode, ho]
  · intro v s hs
    cases ho.symm.trans hs

theorem ends_of_value {w : World Machine} {v : Value} {s : Scratch}
    (ho : outcome? w code env = some (.ok v, s)) :
    Ends it (evaluation diagnostic code env) w fun r xs w' =>
      r = .ok (v.marshaled w.memory.valueAt) ∧ Settled w code env xs w' := by
  obtain ⟨m, h⟩ := w
  obtain ⟨e, hf, he⟩ := Option.map_eq_some_iff.mp ho
  refine (ends_evaluation_value hf he).mono ?_
  rintro r xs w ⟨hw, rfl, hxv, hobject, hvis⟩
  refine ⟨rfl, hw, ?_, ?_, ?_⟩
  · rw [hxv, evaluatedFor, ho]
  · rw [hvis, afterCode, ho]
  · intro v' s' hs
    cases ho.symm.trans hs
    exact hobject

/-- A failure is explained by a second evaluation, which sees what the first one left. -/
theorem ends_of_failure {w : World Machine} {why : EvalError} {s : Scratch}
    (ho : outcome? w code env = some (.error why, s)) (hwhy : why.panic? = none) :
    Ends it (evaluation diagnostic code env) w fun r xs w' =>
      r = .error (.runtime (afterFailure w why s).memory.explanation code) ∧
        Settled w code env xs w' := by
  obtain ⟨m, h⟩ := w
  obtain ⟨e, hf, he⟩ := Option.map_eq_some_iff.mp ho
  refine (ends_evaluation_failure
    (P := fun t n w => t = (afterFailure ⟨m, h⟩ why s).memory.explanation ∧ n = 1 ∧
      visible w = visible (afterExplanation (afterFailure ⟨m, h⟩ why s)))
    (fun _ _ _ _ _ hr => hr) hf he hwhy ?_).mono ?_
  · intro w hvis
    refine ends_diagnostic.mono ?_
    rintro t xs w' ⟨hw, rfl, hxv, hvis'⟩
    exact ⟨hw, explanation_of_visible hvis, hxv, hvis'.trans (visible_afterExplanation hvis)⟩
  · rintro r xs w ⟨hw, t, n, rfl, hxv, rfl, rfl, hvis⟩
    refine ⟨rfl, hw, ?_, ?_, ?_⟩
    · simp only [hxv, evaluatedFor, ho, hwhy]
    · simp only [hvis, afterCode, ho, hwhy]
    · intro v s hs
      cases ho.symm.trans hs

theorem panics_of_failure {w : World Machine} {why : EvalError} {s : Scratch} {p : Panic}
    (ho : outcome? w code env = some (.error why, s)) (hwhy : why.panic? = some p) :
    Panics it (evaluation diagnostic code env) w fun q xs w' =>
      q = p ∧ Settled w code env xs w' := by
  obtain ⟨m, h⟩ := w
  obtain ⟨e, hf, he⟩ := Option.map_eq_some_iff.mp ho
  refine (panics_evaluation hf he hwhy).mono ?_
  rintro q xs w ⟨rfl, hw, hxv, hvis⟩
  refine ⟨rfl, hw, ?_, ?_, ?_⟩
  · simp only [hxv, evaluatedFor, ho, hwhy]
  · simp only [hvis, afterCode, ho, hwhy]
  · intro v s hs
    cases ho.symm.trans hs

/-- Without an outcome that is a panic, the evaluation ends with the answer. -/
theorem ends_evaluation {w : World Machine} {r : Except Fault HostValue}
    (hr : answered w code env = .ok r) :
    Ends it (evaluation diagnostic code env) w fun r' xs w' =>
      r' = r ∧ Settled w code env xs w' := by
  unfold answered at hr
  split at hr
  · next ho =>
    cases hr
    exact ends_of_unparsed ho
  · next ho =>
    cases hr
    exact ends_of_value ho
  · next ho =>
    split at hr
    · cases hr
    · next hwhy =>
      cases hr
      exact ends_of_failure ho hwhy

/-- At an outcome that is a panic the evaluation does not end. -/
theorem panics_evaluation_diagnostic {w : World Machine} {p : Panic}
    (hp : answered w code env = .error p) :
    Panics it (evaluation diagnostic code env) w fun q xs w' =>
      q = p ∧ Settled w code env xs w' := by
  unfold answered at hp
  split at hp
  · cases hp
  · cases hp
  · next ho =>
    split at hp
    · next hwhy =>
      cases hp
      exact panics_of_failure ho hwhy
    · cases hp

/-- The answer to a code, unless the root stack has grown by so much. -/
def checked (w : World Machine) (code : String) (env : Option Obj) (grown : Nat) :
    Except Panic (Except Fault HostValue) :=
  (answered w code env).map fun r =>
    if grown = 0 then r
    else .error (.violation
      (.imbalance w.memory.roots.length (w.memory.roots.length + grown)))

/-- Where the root stack has not grown, nothing stands between. -/
theorem checked_zero (w : World Machine) (code : String) (env : Option Obj) :
    checked w code env 0 = answered w code env := by
  unfold checked
  cases answered w code env <;> rfl

theorem checked_eq_ok {w : World Machine} {n : Nat} {r : Except Fault HostValue} :
    checked w code env n = .ok r ↔ ∃ r', answered w code env = .ok r' ∧
      r = if n = 0 then r' else
        .error (.violation (.imbalance w.memory.roots.length (w.memory.roots.length + n))) := by
  unfold checked
  cases answered w code env <;> simp [Except.map, eq_comm]

theorem checked_eq_error {w : World Machine} {n : Nat} {p : Panic} :
    checked w code env n = .error p ↔ answered w code env = .error p := by
  unfold checked
  cases answered w code env <;> simp [Except.map]

/-- The looks at the depth are no part of what is settled. -/
theorem Settled.between {w w' : World Machine} {xs : List Exchange} {x y : Option Nat}
    (h : Settled w code env xs w') :
    Settled w code env (⟨.depth, x⟩ :: (xs ++ [⟨.depth, y⟩])) w' where
  held := by simpa [Exchange.isParsed] using h.held
  evaluations := by simpa [Exchange.isEvaluation] using h.evaluations
  visible := h.visible
  stands := h.stands

theorem ends_evaluate {w : World Machine} {r : Except Fault HostValue}
    (hr : answered w code env = .ok r) :
    Ends it (evaluate code env) w fun r' xs w' =>
      .ok r' = checked w code env (w.memory.leaked (parses xs)) ∧ Settled w code env xs w' := by
  obtain ⟨m, h⟩ := w
  simp only [evaluate, Dialogue.call, Dialogue.bind_eq, Dialogue.bind, ends_ask_of call_depth]
  refine ends_bind.mpr ((ends_evaluation hr).mono ?_)
  rintro r' xs ⟨m', h'⟩ ⟨rfl, hw⟩
  simp only [ends_ask_of call_depth]
  have hlen : m'.roots.length = m.roots.length + m.leaked (parses xs) := hw.held.length_eq
  have hparses : parses (⟨.depth, some m.roots.length⟩ ::
      (xs ++ [⟨.depth, some m'.roots.length⟩])) = parses xs := by simp [Exchange.isParsed]
  by_cases hl : m.leaked (parses xs) = 0
  · rw [if_pos (by omega), pure_eq, ends_done]
    refine ⟨?_, hw.between⟩
    rw [hparses, checked, hr, hl]
    rfl
  · rw [if_neg (by omega)]
    simp only [remark, Dialogue.bind, pure_eq, ends_note, ends_done]
    refine ⟨?_, hw.between.held, hw.between.evaluations, hw.visible, hw.stands⟩
    rw [hparses, checked, hr, hlen, Except.map, if_neg hl]

theorem panics_evaluate {w : World Machine} {p : Panic} (hp : answered w code env = .error p) :
    Panics it (evaluate code env) w fun q xs w' => q = p ∧ Settled w code env xs w' := by
  obtain ⟨m, h⟩ := w
  simp only [evaluate, Dialogue.call, Dialogue.bind_eq, Dialogue.bind]
  refine panics_ask_of call_depth ((panics_evaluation_diagnostic hp).mono ?_).bind
  rintro q xs w' ⟨rfl, hw⟩
  refine ⟨rfl, ?_, ?_, hw.visible, hw.stands⟩
  · simpa [Exchange.isParsed] using hw.held
  · simpa [Exchange.isEvaluation] using hw.evaluations

/-- An evaluation gives what it is to give, and leaves what it is to leave. -/
theorem run_evaluate (w : World Machine) (code : String) (env : Option Obj) :
    let xs := (evaluate code env).exchanges it w
    ∃ w', (evaluate code env).run it w =
        (checked w code env (w.memory.leaked (parses xs)), w') ∧ Settled w code env xs w' := by
  cases hr : answered w code env with
  | ok r =>
    obtain ⟨r', w', hrun, hr', hw⟩ := ends_evaluate hr
    exact ⟨w', by rw [hrun, hr'], hw⟩
  | error p =>
    obtain ⟨q, w', hrun, rfl, hw⟩ := panics_evaluate hr
    refine ⟨w', ?_, hw⟩
    rw [hrun, checked, hr]
    rfl

end GuestRuntime.Mini
