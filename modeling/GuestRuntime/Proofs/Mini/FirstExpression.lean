import GuestRuntime.Proofs.Mini.Operations

/-!
An evaluation is the evaluation of a code's first expression and nothing else. The code is refused
as unreadable exactly if there is no first expression; otherwise the answer says what evaluating
that expression in the globals gives, and neither the answer nor anything that can be seen
afterwards depends on the expressions behind it. Main statement: `evaluate_eq_first`.
-/

namespace GuestRuntime.Mini

open Dialogue TheGuest Machine

variable {s : MiniSession} {code : String} {env : Option Obj} {w : World Machine} {e : Expr}

/-- The status that parsing a code has. -/
def parseStatus (code : String) : Int :=
  match parse code.toList with
  | .ok _ => parsedOk
  | .error why => statusOf why

/-- A code that cannot be sent, or cannot be parsed, or holds no expression. -/
def Unreadable (code : String) : Prop :=
  '\x00' ∈ code.toList ∨ parseStatus code ≠ parsedOk ∨ parse code.toList = .ok []

/-- A code that is read as an expression, and others behind it. -/
def Begins (code : String) (e : Expr) : Prop :=
  '\x00' ∉ code.toList ∧ ∃ es, parse code.toList = .ok (e :: es)

theorem begins_iff : Begins code e ↔ first? code = some e := by
  refine ⟨?_, first?_eq_some⟩
  rintro ⟨hc, es, hp⟩
  simp [first?, hc, hp]

/-- Exactly the unreadable codes have no first expression. -/
theorem unreadable_iff : Unreadable code ↔ first? code = none := by
  unfold Unreadable parseStatus first?
  by_cases hc : '\x00' ∈ code.toList
  · simp [hc]
  · rcases parse code.toList with why | (_ | ⟨e, es⟩)
    · simp [hc, statusOf_ne_parsedOk]
    · simp [hc]
    · simp [hc]

/-- The environment is another than the one there is. -/
def IsElsewhere (env : Option Obj) : Prop := ∃ x, env = some x ∧ x ≠ globalEnv

/-- Why an expression can fail: it is to be evaluated elsewhere, or cannot be. -/
def FailsIn (m : Machine) (env : Option Obj) (e : Expr) : Prop :=
  IsElsewhere env ∨ ∃ why t, why.panic? = none ∧
    (eval e).run ⟨m.globals, m.lastError, m.mode, []⟩ = (.error why, t)

/-- An expression at which the guest panics: more memory is asked for than there can be. -/
def PanicsIn (m : Machine) (env : Option Obj) (e : Expr) (p : Panic) : Prop :=
  ¬ IsElsewhere env ∧ ∃ why t, why.panic? = some p ∧
    (eval e).run ⟨m.globals, m.lastError, m.mode, []⟩ = (.error why, t)

theorem outcomeIn_of_elsewhere {m : Machine} (h : IsElsewhere env) :
    m.outcomeIn (environment env) e =
      (.error .notEnvironment, ⟨m.globals, m.lastError, m.mode, []⟩) := by
  obtain ⟨x, rfl, hx⟩ := h
  exact if_neg hx

theorem outcomeIn_of_not_elsewhere {m : Machine} (h : ¬ IsElsewhere env) :
    m.outcomeIn (environment env) e = (eval e).run ⟨m.globals, m.lastError, m.mode, []⟩ := by
  refine if_pos ?_
  cases env with
  | none => rfl
  | some x => exact Decidable.not_not.mp fun hx => h ⟨x, rfl, hx⟩

theorem failsIn_iff {m : Machine} : FailsIn m env e ↔
    ∃ why t, why.panic? = none ∧ m.outcomeIn (environment env) e = (.error why, t) := by
  unfold FailsIn
  by_cases h : IsElsewhere env
  · rw [outcomeIn_of_elsewhere h]
    exact ⟨fun _ => ⟨_, _, rfl, rfl⟩, fun _ => .inl h⟩
  · rw [outcomeIn_of_not_elsewhere h]
    simp only [h, false_or]

theorem panicsIn_iff {m : Machine} {p : Panic} : PanicsIn m env e p ↔
    ∃ why t, why.panic? = some p ∧ m.outcomeIn (environment env) e = (.error why, t) := by
  unfold PanicsIn
  by_cases h : IsElsewhere env
  · rw [outcomeIn_of_elsewhere h]
    constructor
    · exact fun hp => absurd h hp.1
    · rintro ⟨why, t, hwhy, he⟩
      cases he
      cases hwhy
  · rw [outcomeIn_of_not_elsewhere h]
    simp only [h, not_false_eq_true, true_and]

/-- A start does not change what an expression comes to. -/
theorem panicsIn_started {s' : MiniSession} {r : Except Fault Handle} {p : Panic}
    (h : Started s r s') :
    PanicsIn s'.world.memory env e p ↔ PanicsIn s.world.memory env e p := by
  cases h <;> rfl

/-- An expression that does not fail, and at which the guest does not panic, has a value in the
globals. -/
theorem exists_value_of_not_failsIn {m : Machine} (hf : ¬ FailsIn m env e)
    (hp : ∀ p, ¬ PanicsIn m env e p) :
    ∃ v t, m.outcomeIn (environment env) e = (.ok v, t) ∧
      (eval e).run ⟨m.globals, m.lastError, m.mode, []⟩ = (.ok v, t) := by
  have hhere : ¬ IsElsewhere env := fun h => hf (.inl h)
  rw [outcomeIn_of_not_elsewhere hhere]
  rcases he : (eval e).run ⟨m.globals, m.lastError, m.mode, []⟩ with ⟨why | v, t⟩
  · cases hwhy : why.panic? with
    | none => exact absurd (.inr ⟨why, t, hwhy, he⟩) hf
    | some p => exact absurd ⟨hhere, why, t, hwhy, he⟩ (hp p)
  · exact ⟨v, t, rfl, rfl⟩

/-- What answers about one code say about another: the same, with the other code in it. -/
def SameAnswer (code code' : String) (out out' : Except Panic (Except Fault HostValue)) : Prop :=
  (∀ v, out = .ok (.ok v) ↔ out' = .ok (.ok v)) ∧
    (∀ t, out = .ok (.error (.runtime t code)) ↔ out' = .ok (.error (.runtime t code'))) ∧
    ∀ p, out = .error p ↔ out' = .error p

/-- Without leaks nothing stands between the answer and the session. -/
theorem evaluate_answered {g : TheGuest} {hd : Handle} (hs : s.lifecycle = .running g hd)
    (hl : s.world.memory.leaky = false) (code : String) (env : Option Obj) :
    ∃ w, s.evaluate code env = (answered s.world code env, { s with world := w }) ∧
      evaluations (evaluationCalls s code env) = evaluatedFor s.world code env ∧
      visible w = visible (afterCode s.world code env) ∧ Stands s.world w code env := by
  obtain ⟨w, heval, hw⟩ := evaluate_running hs code env
  have hzero (n : Nat) : s.world.memory.leaked n = 0 := by simp [leaked, hl]
  rw [hzero, checked_zero] at heval
  exact ⟨w, heval, hw.evaluations, hw.visible, hw.stands⟩

theorem outcome?_of_begins (h : Begins code e) :
    outcome? w code env = some (w.memory.outcomeIn (environment env) e) := by
  rw [outcome?, begins_iff.mp h, Option.map_some]

/-- A code is refused as unreadable, and is then the code that is named, if it has no first
expression. -/
theorem answered_parse_iff (c : String) :
    answered w code env = .ok (.error (.parse c)) ↔ c = code ∧ Unreadable code := by
  rw [unreadable_iff, answered, outcome?]
  cases first? code with
  | none => simp [eq_comm]
  | some e =>
    simp only [Option.map_some, reduceCtorEq, and_false, iff_false]
    rcases w.memory.outcomeIn (environment env) e with ⟨why | v, t⟩
    · cases hwhy : why.panic? <;> simp [hwhy]
    · simp

/-- A code is faulted, and is then the code that is named, if its first expression fails. -/
theorem answered_runtime_iff (h : Begins code e) (c : String) :
    (∃ t, answered w code env = .ok (.error (.runtime t c))) ↔
      c = code ∧ FailsIn w.memory env e := by
  rw [failsIn_iff, answered, outcome?_of_begins h]
  rcases w.memory.outcomeIn (environment env) e with ⟨why | v, t⟩
  · cases hwhy : why.panic? <;> simp [hwhy, eq_comm]
  · simp

/-- The guest panics over a code if it does at its first expression. -/
theorem answered_error_iff (h : Begins code e) (p : Panic) :
    answered w code env = .error p ↔ PanicsIn w.memory env e p := by
  rw [panicsIn_iff, answered, outcome?_of_begins h]
  rcases w.memory.outcomeIn (environment env) e with ⟨why | v, t⟩
  · cases hwhy : why.panic? <;> simp [hwhy]
  · simp

/-- A panic over a code is one at its first expression. -/
theorem exists_panicsIn {p : Panic} (h : answered w code env = .error p) :
    ∃ e, Begins code e ∧ PanicsIn w.memory env e p := by
  obtain ⟨-, t, ho⟩ := answered_eq_error.mp h
  obtain ⟨e, hf, -⟩ := Option.map_eq_some_iff.mp ho
  have hbegins := begins_iff.mpr hf
  exact ⟨e, hbegins, (answered_error_iff hbegins p).mp h⟩

/-- The answers to two codes with the same first expression. -/
theorem answered_same {code' : String} (h : Begins code e) (h' : Begins code' e) :
    SameAnswer code code' (answered w code env) (answered w code' env) := by
  unfold answered
  rw [outcome?_of_begins h, outcome?_of_begins h']
  rcases w.memory.outcomeIn (environment env) e with ⟨why | v, t⟩
  · cases hwhy : why.panic? <;> simp [SameAnswer, hwhy]
  · simp [SameAnswer]

/-- What can be seen after them. -/
theorem afterCode_same {code' : String} (h : Begins code e) (h' : Begins code' e) :
    afterCode w code env = afterCode w code' env := by
  rw [afterCode, afterCode, outcome?_of_begins h, outcome?_of_begins h']

/-- On a running session that does not leak, an evaluation refuses exactly the unreadable codes as
such, without evaluating anything; of any other code the first expression alone decides. If that
fails, the answer is a runtime fault about the code; if it asks for more memory than there can be,
the guest panics; otherwise the answer is what the host keeps of the value; and a code with other
expressions behind the first has the same answer and leaves the same to be seen. -/
theorem evaluate_eq_first {g : TheGuest} {hd : Handle} (hs : s.lifecycle = .running g hd)
    (hl : s.world.memory.leaky = false) (code : String) (env : Option Obj) :
    ∃ out s', s.evaluate code env = (out, s') ∧
      (∀ c, out = .ok (.error (.parse c)) ↔ c = code ∧ Unreadable code) ∧
      (Unreadable code → evaluations (evaluationCalls s code env) = 0 ∧
        visible s'.world = visible s.world) ∧
      ∀ e, Begins code e →
        (∀ c, (∃ t, out = .ok (.error (.runtime t c))) ↔
          c = code ∧ FailsIn s.world.memory env e) ∧
        (∀ p, out = .error p ↔ PanicsIn s.world.memory env e p) ∧
        (¬ FailsIn s.world.memory env e → (∀ p, ¬ PanicsIn s.world.memory env e p) → ∃ v t x,
          (eval e).run ⟨s.world.memory.globals, s.world.memory.lastError, s.world.memory.mode, []⟩ =
            (.ok v, t) ∧
          s'.world.memory.object? x = some v ∧ out = .ok (.ok (v.marshaled x)) ∧
          visible s'.world = visible (afterValue s.world t)) ∧
        ∀ code', Begins code' e → ∃ out' s'', s.evaluate code' env = (out', s'') ∧
          SameAnswer code code' out out' ∧ visible s''.world = visible s'.world := by
  obtain ⟨w, heval, hcount, hvis, hstands⟩ := evaluate_answered hs hl code env
  refine ⟨_, _, heval, answered_parse_iff, ?_,
    fun e he => ⟨answered_runtime_iff he, answered_error_iff he, ?_, ?_⟩⟩
  · intro hu
    have hf := unreadable_iff.mp hu
    rw [hcount, hvis, evaluatedFor, afterCode, outcome?, hf]
    exact ⟨rfl, rfl⟩
  · intro hf hp
    obtain ⟨v, t, hout, hrun⟩ := exists_value_of_not_failsIn hf hp
    have hout : outcome? s.world code env = some (.ok v, t) :=
      (outcome?_of_begins he).trans (congrArg some hout)
    refine ⟨v, t, _, hrun, hstands v t hout, ?_, ?_⟩
    · rw [answered, hout]
    · rw [hvis, afterCode, hout]
  · intro code' he'
    obtain ⟨w', heval', -, hvis', -⟩ := evaluate_answered hs hl code' env
    refine ⟨_, _, heval', answered_same he he', ?_⟩
    exact hvis'.trans ((congrArg visible (afterCode_same he' he)).trans hvis.symm)

/-- A running session as it is after a start. -/
def plainSession : MiniSession where
  source := {}
  lifecycle := .running it ⟨1, .owned⟩
  world := ⟨{}, bareHost⟩

/-- What stands behind a text in its code does not matter. -/
theorem evaluate_eq_first_text :
    ∃ s', plainSession.evaluate "'a'\nstop('b')" none = (.ok (.ok (.text "a")), s') := by
  obtain ⟨out, s', heval, -, -, hfirst⟩ :=
    evaluate_eq_first (s := plainSession) rfl rfl "'a'\nstop('b')" none
  have hbegins : Begins "'a'\nstop('b')" (.str "a") := ⟨by decide, _, rfl⟩
  have hok : ¬ FailsIn plainSession.world.memory none (.str "a") := by
    rintro (⟨x, hx, -⟩ | ⟨why, t, -, ht⟩)
    · cases hx
    · cases ht
  have hcalm : ∀ p, ¬ PanicsIn plainSession.world.memory none (.str "a") p := by
    rintro p ⟨-, why, t, -, ht⟩
    cases ht
  obtain ⟨v, t, x, hrun, -, rfl, -⟩ := (hfirst _ hbegins).2.2.1 hok hcalm
  obtain rfl : v = .ofText "a" := (congrArg Prod.fst hrun |> Except.ok.inj).symm
  exact ⟨s', heval⟩

end GuestRuntime.Mini
