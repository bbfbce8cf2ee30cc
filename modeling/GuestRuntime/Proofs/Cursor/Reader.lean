import GuestRuntime.Mini.Token
import GuestRuntime.Proofs.Checked.Step

/-!
Readers that move over a list. A reader has a position and nothing else; it looks at what stands
there, moves behind it, and where it fails it stays:

        a b c d e
          ▲ position ──advance──▶ position + 1

A loop is given a number of rounds, and it is a halt of its own kind to run out of them, so that a
loop ends by itself exactly if with some number of rounds it does not. Main statement:
`exists_skipWhile`.
-/

namespace GuestRuntime.Cursor

/-- Why a reader stops where nothing was read: the text is wrong, or the steps it was given are
used up. -/
inductive Halt
  | failed (why : Mini.Failure)
  | exhausted

/-- What moves a position, and gives something or halts. -/
abbrev Reader := EStateM Halt Nat

variable {α β γ : Type}

def peek (xs : List α) : Reader (Option α) := return xs[(← get)]?

def advance : Reader Unit := modify (· + 1)

def refuse (why : Mini.Failure) : Reader β := throw (.failed why)

/-- Moves on while what stands at the position continues. -/
def skipWhile (xs : List α) (continues : α → Bool) : Nat → Reader Unit
  | 0 => throw .exhausted
  | n + 1 => do
    match ← peek xs with
    | some x => if continues x then do advance; skipWhile xs continues n
    | none => return ()

variable {xs : List α} {i j n : Nat} {x : Reader β} {f : β → Reader γ}

/-! ### Running -/

@[simp] theorem run_peek : (peek xs).run i = .ok xs[i]? i := rfl

@[simp] theorem run_advance : advance.run i = .ok () (i + 1) := rfl

/-- What follows a reader that gives something. -/
theorem run_bind_ok {b : β} (h : x.run i = .ok b j) (f : β → Reader γ) :
    (x >>= f).run i = (f b).run j := by
  rw [EStateM.run_bind, h]

/-- What follows a reader that halts is not reached. -/
theorem run_bind_error {h : Halt} (hx : x.run i = .error h j) (f : β → Reader γ) :
    (x >>= f).run i = .error h j := by
  rw [EStateM.run_bind, hx]

/-- From `i` a reader ends: it gives what is to be given and stands at the end, or it fails as it is
to and stands no earlier than `i`. -/
inductive Concludes (length i : Nat) : EStateM.Result Halt Nat β → Except Mini.Failure β → Prop
  | ok {b} : Concludes length i (.ok b length) (.ok b)
  | fail {why j} (hij : i ≤ j) (hj : j ≤ length) :
      Concludes length i (.error (.failed why) j) (.error why)

theorem Concludes.mono {length : Nat} {z : EStateM.Result Halt Nat β} {y : Except Mini.Failure β}
    (h : Concludes length j z y) (hij : i ≤ j) : Concludes length i z y := by
  cases h with
  | ok => exact .ok
  | fail hjk hk => exact .fail (Nat.le_trans hij hjk) hk

/-- With more rounds than there is left, the loop ends behind all that continues. -/
theorem exists_skipWhile {continues : α → Bool} (hi : i ≤ xs.length) (hn : xs.length - i < n) :
    ∃ j, (skipWhile xs continues n).run i = .ok () j ∧ i ≤ j ∧ j ≤ xs.length ∧
      xs.drop j = (xs.drop i).dropWhile continues := by
  induction n generalizing i with
  | zero => omega
  | succ n ih =>
    rw [skipWhile, run_bind_ok run_peek]
    rcases hd : xs.drop i with _ | ⟨c, rest⟩
    · rw [(Checked.of_drop_eq_nil hd).2]
      exact ⟨i, rfl, Nat.le_refl i, hi, hd⟩
    obtain ⟨hlt, hc, rfl⟩ := Checked.of_drop_eq_cons hd
    rw [hc]
    by_cases hcontinues : continues c
    · obtain ⟨j, hrun, hij, hj, hdrop⟩ := ih (i := i + 1) hlt (by omega)
      refine ⟨j, ?_, by omega, hj, ?_⟩
      · simpa [hcontinues] using hrun
      · rw [hdrop, List.dropWhile_cons_of_pos hcontinues]
    · refine ⟨i, ?_, Nat.le_refl i, hi, ?_⟩
      · simp [hcontinues]
      · rw [hd, List.dropWhile_cons_of_neg hcontinues]

end GuestRuntime.Cursor
