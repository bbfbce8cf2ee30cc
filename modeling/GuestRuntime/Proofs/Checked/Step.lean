import Mathlib.Data.List.TakeWhile
import GuestRuntime.Guest.Entry
import GuestRuntime.Number.Short

/-!
Steps with their checks. Where a machine would stop, a step ends in a trap: a count that does not
fit, an index that lies outside, a remainder by zero, memory taken while it is taken, a loop that
does not end. What is never outside its range goes through:

        add i 1 ──▶ i + 1 ≤ sizeTop ──▶ i + 1
                         │ no
                         ▼
                      overflow
-/

namespace GuestRuntime.Checked

/-- Why a machine stops in the middle of a program. -/
inductive Trap
  /-- The program's own panic, or an index that lies outside. -/
  | panic (p : Panic)
  /-- Memory taken while it is taken. -/
  | borrowed
  | overflow
  | divisionByZero
  /-- A loop that makes more rounds than there is to go through. -/
  | endless
  deriving DecidableEq, Repr

/-- What may be trapped. -/
abbrev Step := Except Trap

/-- The largest count. -/
def sizeTop : Nat := 18446744073709551615

/-- The most elements that one piece of memory holds. -/
def capacity : Nat := 9223372036854775807

def add (a b : Nat) : Step Nat := if a + b ≤ sizeTop then .ok (a + b) else .error .overflow

def sub (a b : Nat) : Step Nat := if b ≤ a then .ok (a - b) else .error .overflow

def remainder (a b : Nat) : Step Nat := if b = 0 then .error .divisionByZero else .ok (a % b)

/-- Memory for so many elements of so many bytes each. -/
def reserve (size n : Nat) : Step Nat :=
  if n * size ≤ capacity then .ok n else .error (.panic .capacityOverflow)

/-- A number that must fit in 32 bits. -/
def short (n : Int) : Step Int :=
  if -(shortTop : Int) - 1 ≤ n ∧ n ≤ shortTop then .ok n else .error .overflow

section Sequences

variable {α : Type} (l : List α)

def index (i : Nat) : Step α :=
  match l[i]? with
  | some a => .ok a
  | none => .error (.panic .outOfBounds)

/-- From one index up to another. -/
def slice (i j : Nat) : Step (List α) :=
  if i ≤ j ∧ j ≤ l.length then .ok ((l.drop i).take (j - i)) else .error (.panic .outOfBounds)

/-- Behind the elements that continue from an index, in so many rounds at most. -/
def advance (p : α → Bool) : Nat → Nat → Step Nat
  | 0, _ => .error .endless
  | n + 1, i =>
    if i < l.length then do
      let a ← index l i
      if p a then advance p n (← add i 1) else return i
    else return i

/-- More rounds than there are elements. -/
def rounds : Nat := l.length + 1

end Sequences

variable {α β : Type} {a b i j : Nat} {l r : List α} {c : α}

@[simp] theorem ok_bind (x : α) (f : α → Step β) : (Except.ok x : Step α) >>= f = f x := rfl

@[simp] theorem error_bind (t : Trap) (f : α → Step β) :
    (Except.error t : Step α) >>= f = .error t := rfl

@[simp] theorem pure_eq_ok (x : α) : (pure x : Step α) = .ok x := rfl

theorem add_eq (h : a + b ≤ sizeTop) : add a b = .ok (a + b) := if_pos h

theorem sub_eq (h : b ≤ a) : sub a b = .ok (a - b) := if_pos h

theorem remainder_eq (h : 0 < b) : remainder a b = .ok (a % b) := if_neg (Nat.ne_of_gt h)

theorem short_eq {n : Int} (h : -(shortTop : Int) - 1 ≤ n ∧ n ≤ shortTop) : short n = .ok n :=
  if_pos h

theorem reserve_eq (h : a * b ≤ capacity) : reserve b a = .ok a := if_pos h

theorem reserve_error (h : ¬ a * b ≤ capacity) :
    reserve b a = .error (.panic .capacityOverflow) := if_neg h

theorem index_eq (h : l[i]? = some c) : index l i = .ok c := by rw [index, h]

theorem index_eq_getElem (h : i < l.length) : index l i = .ok l[i] :=
  index_eq (List.getElem?_eq_getElem h)

theorem slice_eq (h : i ≤ j) (hj : j ≤ l.length) : slice l i j = .ok ((l.drop i).take (j - i)) :=
  if_pos ⟨h, hj⟩

/-- What fits in memory can be counted, and two more. -/
theorem add_capacity_le (h : a ≤ capacity) (hb : b ≤ 2) : a + b ≤ sizeTop := by
  unfold capacity at h
  unfold sizeTop
  omega

/-- A position with something behind it. -/
theorem of_drop_eq_cons (h : l.drop i = c :: r) :
    i < l.length ∧ l[i]? = some c ∧ l.drop (i + 1) = r := by
  have hlt : i < l.length := Nat.lt_of_not_le fun hle => by
    rw [List.drop_eq_nil_of_le hle] at h
    cases h
  rw [List.drop_eq_getElem_cons hlt, List.cons.injEq] at h
  exact ⟨hlt, (List.getElem?_eq_getElem hlt).trans (congrArg some h.1), h.2⟩

theorem of_getElem?_eq (h : l[i]? = some c) :
    i < l.length ∧ l.drop i = c :: l.drop (i + 1) := by
  obtain ⟨hlt, rfl⟩ := List.getElem?_eq_some_iff.mp h
  exact ⟨hlt, List.drop_eq_getElem_cons hlt⟩

/-- A position with nothing behind it. -/
theorem of_drop_eq_nil (h : l.drop i = []) : l.length ≤ i ∧ l[i]? = none := by
  have hle := List.drop_eq_nil_iff.mp h
  exact ⟨hle, List.getElem?_eq_none hle⟩

theorem add_one_eq (hl : l.length ≤ capacity) (hi : i ≤ l.length) : add i 1 = .ok (i + 1) :=
  add_eq (add_capacity_le (Nat.le_trans hi hl) (by omega))

section Advance

variable {p : α → Bool} {n : Nat} (hl : l.length ≤ capacity)

include hl

/-- A loop that is given enough rounds stops at the first element that does not continue. -/
theorem advance_eq_takeWhile (hn : (l.drop i).length < n) :
    advance l p n i = .ok (i + ((l.drop i).takeWhile p).length) := by
  induction n generalizing i with
  | zero => cases hn
  | succ n ih =>
    rw [advance]
    rcases hd : l.drop i with _ | ⟨c, rest⟩
    · rw [if_neg (Nat.not_lt.mpr (of_drop_eq_nil hd).1)]
      rfl
    obtain ⟨hi, hc, rfl⟩ := of_drop_eq_cons hd
    rw [if_pos hi, index_eq hc, ok_bind, List.takeWhile_cons]
    by_cases hp : p c
    · rw [hd, List.length_cons] at hn
      rw [if_pos hp, if_pos hp, add_one_eq hl (Nat.le_of_lt hi), ok_bind, ih (by omega),
        List.length_cons]
      exact congrArg Except.ok (by omega)
    · rw [if_neg hp, if_neg hp]
      rfl

/-- What continues from an index is a slice, and stops where the loop does. -/
theorem exists_advance (p : α → Bool) (hi : i ≤ l.length) :
    ∃ j, i ≤ j ∧ j ≤ l.length ∧ advance l p (rounds l) i = .ok j ∧
      slice l i j = .ok ((l.drop i).takeWhile p) ∧ l.drop j = (l.drop i).dropWhile p := by
  have htake : (l.drop i).take ((l.drop i).takeWhile p).length = (l.drop i).takeWhile p :=
    (List.prefix_iff_eq_take.mp (List.takeWhile_prefix p)).symm
  have hdrop : ((l.drop i).takeWhile p ++ (l.drop i).dropWhile p).drop
      ((l.drop i).takeWhile p).length = (l.drop i).dropWhile p := List.drop_left
  rw [List.takeWhile_append_dropWhile] at hdrop
  have hrun := (List.takeWhile_prefix p : (l.drop i).takeWhile p <+: l.drop i).length_le
  rw [List.length_drop] at hrun
  refine ⟨i + ((l.drop i).takeWhile p).length, by omega, by omega, ?_, ?_, ?_⟩
  · exact advance_eq_takeWhile hl (by rw [List.length_drop, rounds]; omega)
  · rw [slice_eq (by omega) (by omega), Nat.add_sub_cancel_left, htake]
  · rw [← List.drop_drop, hdrop]

end Advance

end GuestRuntime.Checked
