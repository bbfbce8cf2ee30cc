import GuestRuntime.Proofs.Mini.Calls

/-!
What an evaluation may do to the machine. `Held m k n m'`: from `m` to `m'` only objects, roots and
the traces of evaluated expressions have changed; the roots of `m` are all there, with `k` newer
ones that open frames count on and one more for each of `n` parses where a parse leaks. Every step
keeps this, with its own `k` and `n`; a frame that closes takes the newest roots, whichever they
are. Main statement: `Held.release`.
-/

namespace GuestRuntime.Mini.Machine

/-- How many roots so many parses leave behind. -/
def leaked (m : Machine) (n : Nat) : Nat := if m.leaky then n else 0

/-- The frames opened since `m` have rooted `k` objects, and `n` texts were parsed. -/
structure Held (m : Machine) (k n : Nat) (m' : Machine) : Prop where
  rest : m' = { m with
    heap := m'.heap, roots := m'.roots, unprotects := m'.unprotects, globals := m'.globals,
    lastError := m'.lastError }
  roots : ∃ extra, m'.roots = extra ++ m.roots ∧ extra.length = k + m.leaked n

variable {m m₁ m₂ : Machine} {j k l n : Nat}

theorem leaked_add : m.leaked (l + n) = m.leaked l + m.leaked n := by
  unfold leaked
  split <;> simp

@[simp] theorem leaked_zero : m.leaked 0 = 0 := by simp [leaked]

namespace Held

theorem refl (m : Machine) : Held m 0 0 m := ⟨rfl, [], rfl, by simp⟩

theorem leaky_eq (h : Held m k n m₁) : m₁.leaky = m.leaky := by rw [h.rest]

theorem mode_eq (h : Held m k n m₁) : m₁.mode = m.mode := by rw [h.rest]

theorem trans (h : Held m j l m₁) (h' : Held m₁ k n m₂) : Held m (j + k) (l + n) m₂ := by
  obtain ⟨xs, hxs, hlx⟩ := h.roots
  obtain ⟨ys, hys, hly⟩ := h'.roots
  refine ⟨?_, ys ++ xs, by rw [hys, hxs, List.append_assoc], ?_⟩
  · rw [h'.rest, h.rest]
  · have hl : m₁.leaked n = m.leaked n := by rw [leaked, leaked, h.leaky_eq]
    rw [List.length_append, hlx, hly, hl, leaked_add]
    omega

theorem push (h : Held m k n m₁) (v : Value) : Held m k n (m₁.push v) :=
  h.trans (⟨rfl, [], rfl, by simp⟩ : Held m₁ 0 0 (m₁.push v))

theorem hold (h : Held m k n m₁) (x : Obj) : Held m (k + 1) n (m₁.hold x) :=
  h.trans (⟨rfl, [x], rfl, by simp⟩ : Held m₁ 1 0 (m₁.hold x))

theorem leave (h : Held m k n m₁) (g : Globals) (t : String) : Held m k n (m₁.leave g t) :=
  h.trans (⟨rfl, [], rfl, by simp⟩ : Held m₁ 0 0 (m₁.leave g t))

theorem leak (h : Held m k n m₁) (x : Obj) : Held m k (n + 1) (m₁.leak x) := by
  have hx : Held m₁ 0 1 (m₁.leak x) := by
    by_cases hl : m₁.leaky
    · rw [Machine.leak, if_pos hl]
      exact ⟨rfl, [x], rfl, by simp [leaked, hl]⟩
    · rw [Machine.leak, if_neg hl]
      exact ⟨rfl, [], rfl, by simp [leaked, hl]⟩
  exact h.trans hx

/-- There is always enough for a frame to release. -/
theorem le_length (h : Held m (j + k) n m₁) : j ≤ m₁.roots.length := by
  obtain ⟨xs, hxs, hl⟩ := h.roots
  rw [hxs, List.length_append]
  omega

/-- A frame takes as many roots as it made; what lies below `m` is not reached. -/
theorem release (h : Held m (j + k) n m₁) : Held m k n (m₁.release j) := by
  obtain ⟨xs, hxs, hl⟩ := h.roots
  refine ⟨?_, xs.drop j, ?_, ?_⟩
  · rw [Machine.release, h.rest]
  · rw [roots_release, hxs, List.drop_append_of_le_length (by omega)]
  · rw [List.length_drop]
    omega

/-- When all frames are closed the depth has changed by what was leaked. -/
theorem length_eq (h : Held m 0 n m₁) : m₁.roots.length = m.roots.length + m.leaked n := by
  obtain ⟨xs, hxs, hl⟩ := h.roots
  rw [hxs, List.length_append, hl]
  omega

end Held
end GuestRuntime.Mini.Machine
