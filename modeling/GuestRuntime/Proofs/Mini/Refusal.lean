import GuestRuntime.Proofs.Mini.Calls

/-!
What the mini guest refuses, and why: to be started or ended twice, to release more than it holds,
to look at what is not there, an object of another kind than the call is for, an element that lies
outside, and a vector that no memory could hold. A call that is refused panics and does nothing
else. One panic comes in the middle of a call: an evaluation that asks for such a vector keeps what
it has assigned and printed by then. Main statements: `panics_of_outcome`, `Refuses.call_eq` and
`Overreaches.call_eq`.
-/

namespace GuestRuntime.Mini

open Machine

/-- The object that a call looks at. -/
def looksAt : Entry → Option Obj
  | .parse x | .length x | .element x _ | .tryEval x _ _ | .kindOf x | .stringElement x _
  | .chars x | .bytes x | .integers x | .logicals x | .reals x => some x
  | _ => none

/-- The kind of objects that a call is for, and its panic over any other kind. -/
def isFor : Entry → Option (Kind × Panic)
  | .parse _ => some (.strings, .parseOfNoText)
  | .element _ _ => some (.expressions, .wrongKind "VECTOR_ELT" "expression vector")
  | .stringElement _ _ => some (.strings, .wrongKind "STRING_ELT" "string vector")
  | .chars _ => some (.chars, .wrongKind "R_CHAR" "CHARSXP")
  | .bytes _ => some (.bytes, .wrongKind "RAW" "raw vector")
  | .integers _ => some (.integers, .wrongKind "INTEGER" "integer vector")
  | .logicals _ => some (.logicals, .wrongKind "LOGICAL" "logical vector")
  | .reals _ => some (.reals, .wrongKind "REAL" "real vector")
  | _ => none

/-- The index at which a call takes an element. -/
def indexOf? : Entry → Option Int
  | .element _ i | .stringElement _ i => some i
  | _ => none

/-- Why a call panics. -/
inductive Refuses (m : Machine) : Entry → Panic → Prop
  | startedTwice {arguments : List Bytes} (h : m.initialized = true) :
      Refuses m (.boot arguments) .bootedTwice
  | endedTwice {fatal : Bool} (h : m.ended.isSome = true) :
      Refuses m (.finish fatal) .finishedTwice
  | underflow {n : Int} (h : m.roots.length < n.toNat) :
      Refuses m (.unprotect n) (.tooManyUnprotected m.roots.length)
  | dangling {e : Entry} {x : Obj} (hx : looksAt e = some x) (ho : m.object? x = none) :
      Refuses m e (.dangling x)
  | otherKind {e : Entry} {x : Obj} {v : Value} {k : Kind} {p : Panic} (hx : looksAt e = some x)
      (ho : m.object? x = some v) (hk : isFor e = some (k, p)) (hv : v.kind ≠ k) : Refuses m e p
  | outside {e : Entry} {x : Obj} {v : Value} {p : Panic} {i : Int} (hx : looksAt e = some x)
      (ho : m.object? x = some v) (hk : isFor e = some (v.kind, p)) (hi : indexOf? e = some i)
      (h : i < 0 ∨ v.length ≤ i) : Refuses m e .outOfBounds
  /-- What is not there counts as another kind here. -/
  | noStrings {x : Obj} {i : Int} {text : Bytes} (h : ∀ es, m.object? x ≠ some (.strings es)) :
      Refuses m (.setString x i text) (.wrongKind "SET_STRING_ELT" "string vector")
  | outsideStrings {x : Obj} {i : Int} {text : Bytes} {es : List Bytes}
      (ho : m.object? x = some (.strings es)) (h : i < 0 ∨ es.length ≤ i) :
      Refuses m (.setString x i text) .outOfBounds
  | oversized {n : Int} (h : memoryTop < n.toNat * stringSize) :
      Refuses m (.allocStrings n) .capacityOverflow

/-- The panic of an evaluation that asks for too much; `s` is what it has done by then. -/
inductive Overreaches (m : Machine) : Entry → Panic → Scratch → Prop
  | evaluation {x env : Obj} {flag : Int} {e : Expr} {why : EvalError} {s : Scratch} {p : Panic}
      (ho : m.object? x = some (.lang e)) (he : m.outcomeIn env e = (.error why, s))
      (hp : why.panic? = some p) : Overreaches m (.tryEval x env flag) p s

/-- Why a call panics. -/
def PanicsAt (m : Machine) (e : Entry) (p : Panic) : Prop :=
  Refuses m e p ∨ ∃ s, Overreaches m e p s

variable {m : Machine} {e : Entry} {p : Panic} {x : Obj} {s : Scratch} {α β : Type}

/-! ### What panics is refused -/

/-- A call that looks at an object is refused if the object is not there. -/
theorem refuses_of_look {k : Value → Step e.Answer} (hx : looksAt e = some x)
    (h : (withObject x k m).outcome = .error p)
    (hk : ∀ v, m.object? x = some v → (k v m).outcome = .error p → PanicsAt m e p) :
    PanicsAt m e p := by
  unfold withObject at h
  split at h
  · next v ho => exact hk v ho h
  · next ho =>
    cases h
    exact .inl (.dangling hx ho)

/-- A call for objects of one kind is refused if the object is of another. -/
theorem refuses_of_kind {k : Value → Step e.Answer} {kind : Kind} {why : Panic}
    (hx : looksAt e = some x) (he : isFor e = some (kind, why))
    (h : (withObject x k m).outcome = .error p)
    (hk : ∀ v, (k v m).outcome = .error p → p = why ∧ v.kind ≠ kind) : PanicsAt m e p := by
  refine refuses_of_look hx h fun v ho hv => ?_
  obtain ⟨rfl, hne⟩ := hk v hv
  exact .inl (.otherKind hx ho he hne)

theorem outcome_elementAt {l : List α} {i : Int} {g : α → Value}
    (h : (elementAt l i (fun b => answerNew (g b)) m).outcome = .error p) :
    p = .outOfBounds ∧ (i < 0 ∨ l.length ≤ i) := by
  unfold elementAt at h
  split at h
  · cases h
  · next hnone =>
    cases h
    refine ⟨rfl, ?_⟩
    split at hnone
    · next hneg => exact .inl hneg
    · rw [List.getElem?_eq_none_iff] at hnone
      omega

/-- A call that panics is refused for one of the reasons, or asks for too much. -/
theorem panics_of_outcome (h : (Machine.call e m).outcome = .error p) : PanicsAt m e p := by
  cases e with
  | boot arguments =>
    simp only [Machine.call] at h
    split at h
    · next hi =>
      cases h
      exact .inl (.startedTwice hi)
    · cases h
  | finish fatal =>
    simp only [Machine.call] at h
    split at h
    · next hi =>
      cases h
      exact .inl (.endedTwice hi)
    · cases h
  | unprotect n =>
    simp only [Machine.call] at h
    split at h
    · cases h
    · next hn =>
      cases h
      exact .inl (.underflow (Nat.lt_of_not_le hn))
  | allocStrings n =>
    rw [Machine.call] at h
    split at h
    · cases h
    · next hn =>
      cases h
      exact .inl (.oversized (Nat.lt_of_not_le hn))
  | setString v i text =>
    simp only [Machine.call, Machine.setString] at h
    split at h
    · next es ho =>
      split at h
      · cases h
      · next hi =>
        cases h
        exact .inl (.outsideStrings ho (by omega))
    · next hne =>
      cases h
      exact .inl (.noStrings hne)
  | parse x =>
    rw [Machine.call] at h
    refine refuses_of_kind rfl rfl h fun v hv => ?_
    cases v with
    | strings es =>
      simp only [parseStrings] at hv
      split at hv <;> cases hv
    | _ => exact ⟨(Except.error.inj hv).symm, Nat.ne_of_beq_eq_false rfl⟩
  | length x | kindOf x =>
    rw [Machine.call] at h
    refine refuses_of_look rfl h fun v ho hv => ?_
    cases hv
  | element x i =>
    rw [Machine.call] at h
    refine refuses_of_look rfl h fun v ho hv => ?_
    cases v with
    | exprs es =>
      obtain ⟨rfl, hi⟩ := outcome_elementAt hv
      exact .inl (.outside rfl ho rfl rfl hi)
    | _ =>
      cases hv
      exact .inl (.otherKind rfl ho rfl (Nat.ne_of_beq_eq_false rfl))
  | stringElement x i =>
    rw [Machine.call] at h
    refine refuses_of_look rfl h fun v ho hv => ?_
    cases v with
    | strings es =>
      obtain ⟨rfl, hi⟩ := outcome_elementAt hv
      exact .inl (.outside rfl ho rfl rfl hi)
    | _ =>
      cases hv
      exact .inl (.otherKind rfl ho rfl (Nat.ne_of_beq_eq_false rfl))
  | tryEval x env flag =>
    rw [Machine.call] at h
    refine refuses_of_look rfl h fun v ho hv => ?_
    cases v with
    | lang e =>
      rcases he : m.outcomeIn env e with ⟨why | v, s⟩
      · cases hwhy : why.panic? with
        | none =>
          simp only [tryEval, he, failing, hwhy] at hv
          cases hv
        | some q =>
          simp only [tryEval, he, failing, hwhy] at hv
          cases hv
          exact .inr ⟨s, .evaluation ho he hwhy⟩
      · simp only [tryEval, he] at hv
        cases hv
    | _ => cases hv
  | chars x =>
    rw [Machine.call] at h
    refine refuses_of_kind rfl rfl h fun v hv => ?_
    cases v with
    | chars b => cases hv
    | _ => exact ⟨(Except.error.inj hv).symm, Nat.ne_of_beq_eq_false rfl⟩
  | bytes x =>
    rw [Machine.call] at h
    refine refuses_of_kind rfl rfl h fun v hv => ?_
    cases v with
    | bytes b => cases hv
    | _ => exact ⟨(Except.error.inj hv).symm, Nat.ne_of_beq_eq_false rfl⟩
  | integers x =>
    rw [Machine.call] at h
    refine refuses_of_kind rfl rfl h fun v hv => ?_
    cases v with
    | ints l => cases hv
    | _ => exact ⟨(Except.error.inj hv).symm, Nat.ne_of_beq_eq_false rfl⟩
  | logicals x =>
    rw [Machine.call] at h
    refine refuses_of_kind rfl rfl h fun v hv => ?_
    cases v with
    | lgls l => cases hv
    | _ => exact ⟨(Except.error.inj hv).symm, Nat.ne_of_beq_eq_false rfl⟩
  | reals x =>
    rw [Machine.call] at h
    refine refuses_of_kind rfl rfl h fun v hv => ?_
    cases v with
    | reals l => cases hv
    | _ => exact ⟨(Except.error.inj hv).symm, Nat.ne_of_beq_eq_false rfl⟩
  | _ => cases h

/-! ### What is refused panics -/

theorem elementAt_none {l : List α} {i : Int} {f : α → Step β} (h : i < 0 ∨ l.length ≤ i) :
    elementAt l i f m = Machine.panic .outOfBounds m := by
  have hnone : (if i < 0 then none else l[i.toNat]?) = none := by
    split
    · rfl
    · exact List.getElem?_eq_none (by omega)
  rw [elementAt, hnone]

/-- A call that is refused panics, and does nothing else. -/
theorem Refuses.call_eq (h : Refuses m e p) : Machine.call e m = Machine.panic p m := by
  cases h with
  | startedTwice h => exact if_pos h
  | endedTwice h => exact if_pos h
  | underflow h => exact if_neg (Nat.not_le.mpr h)
  | dangling hx ho =>
    cases e <;> cases hx <;> rw [Machine.call] <;> exact withObject_none ho
  | @otherKind _ _ v _ _ hx ho hk hv =>
    cases e <;> cases hx <;> cases hk <;> refine (withObject_some ho).trans ?_ <;> cases v <;>
      first | rfl | exact absurd rfl hv
  | @outside _ _ v _ i hx ho hk hi h =>
    cases e <;> cases hi <;> cases hx <;> refine (withObject_some ho).trans ?_ <;> cases v <;>
      first | cases hk; done | exact elementAt_none h
  | noStrings h =>
    rw [Machine.call, Machine.setString]
    split
    · next es ho => exact absurd ho (h es)
    · rfl
  | outsideStrings ho h =>
    rw [Machine.call, Machine.setString, ho]
    exact if_neg (by omega)
  | oversized h => exact allocStrings_of_not_le (Nat.not_le.mpr h)

/-- An evaluation that asks for too much panics, and keeps what it has done. -/
theorem Overreaches.call_eq (h : Overreaches m e p s) : Machine.call e m =
    ⟨.error p, m.leave s.globals m.lastError, s.printed.flatMap (m.printing 0)⟩ := by
  cases h with
  | evaluation ho he hp =>
    refine (withObject_some ho).trans ?_
    simp only [tryEval, he, failing, hp]
    rfl

end GuestRuntime.Mini
