/-!
Association lists in which a binding replaces the one before it. Main statement: a new binding
leaves those of other keys alone.
-/

namespace GuestRuntime

variable {κ β : Type} [BEq κ] [LawfulBEq κ] {k k' : κ} {v : β} {l : List (κ × β)}

theorem lookup_filter_of_ne (h : k' ≠ k) :
    (l.filter fun b => b.1 != k).lookup k' = l.lookup k' := by
  have hne : (k' == k) = false := by simpa using h
  induction l with
  | nil => rfl
  | cons b l ih =>
    obtain ⟨x, u⟩ := b
    by_cases hx : x = k
    · subst hx
      simpa [List.lookup_cons, hne] using ih
    · simp only [List.filter_cons, bne_iff_ne, ne_eq, hx, not_false_eq_true, if_true,
        List.lookup_cons, ih]

/-- The new binding stands in front, and of its key there is no other. -/
theorem lookup_rebind_of_ne (h : k' ≠ k) :
    ((k, v) :: l.filter fun b => b.1 != k).lookup k' = l.lookup k' := by
  have hne : (k' == k) = false := by simpa using h
  rw [List.lookup_cons, hne, lookup_filter_of_ne h]

end GuestRuntime
