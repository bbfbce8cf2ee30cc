import GuestRuntime.Number.Rounding

/-!
Numbers of 32 bits, which guests count in. Of a number that does not fit, 32 bits keep what is left
of it modulo how many of them there are; `shortened_of_le` says which counts fit.
-/

namespace GuestRuntime

/-- The largest number of 32 bits. -/
def shortTop : Nat := 2147483647

/-- What 32 bits keep of a number. -/
def shortened (n : Int) : Int := n.bmod (pow2 32)

theorem shortened_of_le {n : Nat} (h : n ≤ shortTop) : shortened n = n := by
  have hbits : pow2 32 = 4294967296 := rfl
  unfold shortTop at h
  exact Int.bmod_eq_of_le (by omega) (by omega)

/-- Of a number that is too large, but not by as much as there are numbers, nothing positive is
left. -/
theorem shortened_nonpos {n : Nat} (h : shortTop < n) (h' : n ≤ pow2 32) : shortened n ≤ 0 := by
  have hbits : pow2 32 = 4294967296 := rfl
  rw [hbits] at h'
  unfold shortTop at h
  rw [shortened, Int.bmod_def, hbits]
  split <;> omega

/-- A number is never made larger. -/
theorem shortened_le (n : Nat) : shortened n ≤ n := by
  have hbits : pow2 32 = 4294967296 := rfl
  rw [shortened, Int.bmod_def, hbits]
  split <;> omega

/-- Counting on in 32 bits. -/
theorem shortened_succ (n : Nat) : shortened (shortened n + 1) = shortened (n + 1) :=
  Int.bmod_add_bmod

/-- One more than the largest is the least. -/
example : shortened (shortTop + 1) = -2147483648 := by decide

end GuestRuntime
