import GuestRuntime.Mini.Machine
import GuestRuntime.Proofs.Dialogue.Ends

/-!
The mini guest's calls, one equation for each that an evaluation makes: what it answers and the
machine after it, which is the one before with an object more (`push`), a root more (`hold`), the
newest roots released (`release`) or an evaluation's traces (`leave`).
-/

namespace GuestRuntime.Mini

open Dialogue TheGuest

namespace Machine

/-- The address of the next object. -/
def next (m : Machine) : Obj := ⟨m.heap.size + 1⟩

/-- The machine with one more object. -/
def push (m : Machine) (v : Value) : Machine := { m with heap := m.heap.push v }

/-- The machine with one more root. -/
def hold (m : Machine) (x : Obj) : Machine := { m with roots := x :: m.roots }

/-- What a parse does to the roots. -/
def leak (m : Machine) (x : Obj) : Machine := if m.leaky then m.hold x else m

/-- The machine without its newest roots. -/
def release (m : Machine) (n : Nat) : Machine :=
  { m with roots := m.roots.drop n, unprotects := m.unprotects + 1 }

/-- The machine after an evaluation that left these globals and this last message. -/
def leave (m : Machine) (globals : Globals) (lastError : String) : Machine :=
  { m with globals, lastError }

variable (m : Machine) (x : Obj) (v : Value) (n : Nat) (g : Globals) (t : String)

@[simp] theorem object?_push_next : (m.push v).object? m.next = some v := by
  simp [object?, push, next]

@[simp] theorem object?_hold (y : Obj) : (m.hold x).object? y = m.object? y := rfl

theorem object?_push_of {y : Obj} {u : Value} (h : m.object? y = some u) :
    (m.push v).object? y = some u := by
  simp only [object?, push] at h ⊢
  by_cases hy : y.address = 0
  · simp [hy] at h
  · rw [if_neg hy] at h ⊢
    obtain ⟨hlt, -⟩ := Array.getElem?_eq_some_iff.mp h
    rw [Array.getElem?_push, if_neg (Nat.ne_of_lt hlt), h]

@[simp] theorem object?_leak (y : Obj) : (m.leak x).object? y = m.object? y := by
  unfold leak
  split <;> rfl

@[simp] theorem heap_leak : (m.leak x).heap = m.heap := by
  unfold leak
  split <;> rfl

@[simp] theorem globals_leak : (m.leak x).globals = m.globals := by
  unfold leak
  split <;> rfl

@[simp] theorem lastError_leak : (m.leak x).lastError = m.lastError := by
  unfold leak
  split <;> rfl

@[simp] theorem mode_leak : (m.leak x).mode = m.mode := by
  unfold leak
  split <;> rfl

@[simp] theorem wired_leak : (m.leak x).wired = m.wired := by
  unfold leak
  split <;> rfl

@[simp] theorem roots_release : (m.release n).roots = m.roots.drop n := rfl

variable {m x v} {α : Type} {k : Value → Step α}

theorem withObject_some (h : m.object? x = some v) : withObject x k m = k v m := by
  rw [withObject, h]

theorem withObject_none (h : m.object? x = none) :
    withObject x k m = panic (.dangling x) m := by
  rw [withObject, h]

end Machine

open Machine

variable {m : Machine} {h : Host} {x : Obj}

/-- What a call does to the world is what it replies, the host being called back. -/
theorem call_of_reply {e : Entry} {r : Reply Machine e.Answer} (hr : Machine.call e m = r) :
    World.call it e ⟨m, h⟩ = (r.outcome, ⟨r.memory, h.callbacks r.callbacks⟩) := by
  rw [← hr]
  rfl

/-- A call that looks at an object which is there. -/
theorem call_of_object {e : Entry} {v : Value} {k : Value → Machine.Step e.Answer}
    (he : Machine.call e m = withObject x k m) (ho : m.object? x = some v) :
    World.call it e ⟨m, h⟩ =
      ((k v m).outcome, ⟨(k v m).memory, h.callbacks (k v m).callbacks⟩) :=
  call_of_reply (he.trans (withObject_some ho))

theorem call_depth : World.call it .depth ⟨m, h⟩ = (.ok (some m.roots.length), ⟨m, h⟩) := rfl

/-- A vector of strings that fits in memory is made. -/
theorem allocStrings_of_le {n : Int} (hn : n.toNat * stringSize ≤ memoryTop) :
    Machine.call (.allocStrings n) m = answerNew (.strings (List.replicate n.toNat [])) m :=
  congrFun (if_pos hn) m

theorem allocStrings_of_not_le {n : Int} (hn : ¬ n.toNat * stringSize ≤ memoryTop) :
    Machine.call (.allocStrings n) m = Machine.panic .capacityOverflow m :=
  congrFun (if_neg hn) m

theorem call_allocStrings {n : Int} (hn : n.toNat * stringSize ≤ memoryTop) :
    World.call it (.allocStrings n) ⟨m, h⟩ =
      (.ok m.next, ⟨m.push (.strings (List.replicate n.toNat [])), h⟩) := by
  rw [call_of_reply (allocStrings_of_le hn)]
  rfl

/-- The vector that holds the text of an evaluation. -/
theorem call_allocString :
    World.call it (.allocStrings 1) ⟨m, h⟩ = (.ok m.next, ⟨m.push (.strings [[]]), h⟩) :=
  call_allocStrings (by decide)

theorem call_protect (x : Obj) : World.call it (.protect x) ⟨m, h⟩ = (.ok x, ⟨m.hold x, h⟩) := rfl

theorem call_unprotect {n : Nat} (hn : n ≤ m.roots.length) :
    World.call it (.unprotect n) ⟨m, h⟩ = (.ok (), ⟨m.release n, h⟩) := by
  have hreply : Machine.call (.unprotect n) m = answer () (m.release n) := if_pos hn
  rw [call_of_reply hreply]
  rfl

/-- The first string of a vector made and rooted just now. -/
theorem call_setString (b text : Bytes) :
    World.call it (.setString m.next 0 text) ⟨(m.push (.strings [b])).hold x, h⟩ =
      (.ok (), ⟨(m.push (.strings [text])).hold x, h⟩) := by
  have ho : ((m.push (.strings [b])).hold x).object? m.next = some (.strings [b]) := by simp
  have hset : (m.heap.push (.strings [b])).setIfInBounds m.heap.size (.strings [text]) =
      m.heap.push (.strings [text]) := by
    simp [Array.setIfInBounds, Array.set_push]
  have hreply : Machine.call (.setString m.next 0 text) ((m.push (.strings [b])).hold x) =
      answer () ((m.push (.strings [text])).hold x) := by
    change Machine.setString m.next 0 text _ = _
    rw [Machine.setString, ho]
    simp [answer, push, hold, next, hset]
  rw [call_of_reply hreply]
  rfl

theorem call_parseStrings_ok {bs : List Bytes} {es : List Expr}
    (ho : m.object? x = some (.strings bs)) (hp : parse (sourceText bs) = .ok es) :
    World.call it (.parse x) ⟨m, h⟩ =
      (.ok (parsedOk, m.next), ⟨(m.push (.exprs es)).leak m.next, h⟩) := by
  refine (call_of_object rfl ho).trans ?_
  simp only [parseStrings, hp]
  rfl

theorem call_parseStrings_error {bs : List Bytes} {why : Failure}
    (ho : m.object? x = some (.strings bs)) (hp : parse (sourceText bs) = .error why) :
    World.call it (.parse x) ⟨m, h⟩ = (.ok (statusOf why, Machine.nil), ⟨m, h⟩) := by
  refine (call_of_object rfl ho).trans ?_
  simp only [parseStrings, hp]
  rfl

theorem sourceText_singleton (b : Bytes) : sourceText [b] = Utf8.decodeChars b := by
  simp [sourceText, List.intercalate]

theorem call_parse_ok {b : Bytes} {es : List Expr} (ho : m.object? x = some (.strings [b]))
    (hp : parse (Utf8.decodeChars b) = .ok es) :
    World.call it (.parse x) ⟨m, h⟩ =
      (.ok (parsedOk, m.next), ⟨(m.push (.exprs es)).leak m.next, h⟩) :=
  call_parseStrings_ok ho (by rw [sourceText_singleton, hp])

theorem call_parse_error {b : Bytes} {why : Failure} (ho : m.object? x = some (.strings [b]))
    (hp : parse (Utf8.decodeChars b) = .error why) :
    World.call it (.parse x) ⟨m, h⟩ = (.ok (statusOf why, Machine.nil), ⟨m, h⟩) :=
  call_parseStrings_error ho (by rw [sourceText_singleton, hp])

theorem call_length {v : Value} (ho : m.object? x = some v) :
    World.call it (.length x) ⟨m, h⟩ = (.ok (v.length : Int), ⟨m, h⟩) :=
  call_of_object (e := .length x) (k := fun v => answer (v.length : Int)) rfl ho

theorem call_globalEnv : World.call it .globalEnv ⟨m, h⟩ = (.ok globalEnv, ⟨m, h⟩) := rfl

theorem call_element {e : Expr} {es : List Expr} (ho : m.object? x = some (.exprs (e :: es))) :
    World.call it (.element x 0) ⟨m, h⟩ = (.ok m.next, ⟨m.push (.lang e), h⟩) :=
  (call_of_object rfl ho).trans rfl

theorem statusOf_ne_parsedOk (why : Failure) : statusOf why ≠ parsedOk := by
  cases why <;> decide

/-- What evaluating an expression that has a value gives. -/
theorem call_tryEval_ok {env : Obj} {e : Expr} {v : Value} {s : Scratch} (flag : Int)
    (ho : m.object? x = some (.lang e)) (he : m.outcomeIn env e = (.ok v, s)) :
    World.call it (.tryEval x env flag) ⟨m, h⟩ = (.ok (0, m.next),
      ⟨(m.leave s.globals m.lastError).push v,
        h.callbacks (s.printed.flatMap (m.printing 0))⟩) := by
  refine (call_of_object rfl ho).trans ?_
  simp only [Machine.tryEval, he]
  rfl

/-- What evaluating an expression that fails gives. -/
theorem call_tryEval_error {env : Obj} {e : Expr} {why : EvalError} {s : Scratch} (flag : Int)
    (ho : m.object? x = some (.lang e)) (he : m.outcomeIn env e = (.error why, s))
    (hwhy : why.panic? = none) :
    World.call it (.tryEval x env flag) ⟨m, h⟩ = (.ok (1, Machine.nil),
      ⟨m.leave s.globals (errorText why),
        h.callbacks (s.printed.flatMap (m.printing 0) ++ m.printing 1 (errorText why))⟩) := by
  refine (call_of_object rfl ho).trans ?_
  simp only [Machine.tryEval, he, failing, hwhy]
  rfl

/-- What evaluating an expression gives at which the guest panics. -/
theorem call_tryEval_panic {env : Obj} {e : Expr} {why : EvalError} {s : Scratch} {p : Panic}
    (flag : Int) (ho : m.object? x = some (.lang e)) (he : m.outcomeIn env e = (.error why, s))
    (hwhy : why.panic? = some p) :
    World.call it (.tryEval x env flag) ⟨m, h⟩ = (.error p,
      ⟨m.leave s.globals m.lastError, h.callbacks (s.printed.flatMap (m.printing 0))⟩) := by
  refine (call_of_object rfl ho).trans ?_
  simp only [Machine.tryEval, he, failing, hwhy]
  rfl

theorem call_kindOf {v : Value} (ho : m.object? x = some v) :
    World.call it (.kindOf x) ⟨m, h⟩ = (.ok v.kind, ⟨m, h⟩) :=
  call_of_object (e := .kindOf x) (k := fun v => answer v.kind) rfl ho

theorem call_stringElement {b : Bytes} {bs : List Bytes}
    (ho : m.object? x = some (.strings (b :: bs))) :
    World.call it (.stringElement x 0) ⟨m, h⟩ = (.ok m.next, ⟨m.push (.chars b), h⟩) :=
  (call_of_object rfl ho).trans rfl

theorem call_chars {b : Bytes} (ho : m.object? x = some (.chars b)) :
    World.call it (.chars x) ⟨m, h⟩ = (.ok (some b), ⟨m, h⟩) :=
  (call_of_object rfl ho).trans rfl

theorem call_bytes {b : Bytes} (ho : m.object? x = some (.bytes b)) :
    World.call it (.bytes x) ⟨m, h⟩ = (.ok b, ⟨m, h⟩) :=
  (call_of_object rfl ho).trans rfl

theorem call_integers {l : List Int} (ho : m.object? x = some (.ints l)) :
    World.call it (.integers x) ⟨m, h⟩ = (.ok l, ⟨m, h⟩) :=
  (call_of_object rfl ho).trans rfl

theorem call_logicals {l : List Int} (ho : m.object? x = some (.lgls l)) :
    World.call it (.logicals x) ⟨m, h⟩ = (.ok l, ⟨m, h⟩) :=
  (call_of_object rfl ho).trans rfl

theorem call_reals {l : List Double} (ho : m.object? x = some (.reals l)) :
    World.call it (.reals x) ⟨m, h⟩ = (.ok l, ⟨m, h⟩) :=
  (call_of_object rfl ho).trans rfl

/-- No number is the missing one here. -/
theorem call_isMissing (y : Double) :
    World.call it (.isMissing y) ⟨m, h⟩ = (.ok false, ⟨m, h⟩) := rfl

end GuestRuntime.Mini
