import Mathlib.Data.List.DropRight
import GuestRuntime.Text.Blank

/-!
Lines one at a time. What stands up to a line feed is the first line and the rest has the other
lines; a text without a line feed is one line, or none:

        l \n r  ──lines──▶  l, lines of r

A carriage return before the line feed is a blank, so no line that is trimmed has it. Main
statements: `byLines`, `lines_line` and `trim_chomp`.
-/

namespace GuestRuntime.Text

variable {c : Char} {l r s cur : List Char}

/-! ### Trimming -/

theorem trim_eq (s : List Char) : trim s = (s.dropWhile isBlank).rdropWhile isBlank := rfl

/-- A blank at the end is not kept. -/
theorem trim_concat (h : isBlank c) : trim (s ++ [c]) = trim s := by
  simp only [trim_eq, List.dropWhile_append]
  by_cases hs : (s.dropWhile isBlank).isEmpty
  · rw [if_pos hs, List.isEmpty_iff.mp hs]
    simp [h]
  · rw [if_neg hs, List.rdropWhile_concat_pos _ _ _ h]

theorem trim_sublist (s : List Char) : (trim s).Sublist s :=
  (List.rdropWhile_prefix isBlank _).sublist.trans (List.dropWhile_sublist isBlank)

/-- What is kept begins with no blank. -/
theorem head?_trim (s : List Char) : ∀ d ∈ (trim s).head?, isBlank d = false := by
  intro d hd
  obtain ⟨t, ht⟩ := List.head?_eq_some_iff.mp hd
  obtain ⟨rest, hrest⟩ := List.rdropWhile_prefix isBlank (s.dropWhile isBlank)
  have hhead : (s.dropWhile isBlank).head? = some d := by
    rw [← hrest, ← trim_eq, ht]
    rfl
  have hblank := List.head?_dropWhile_not isBlank s
  simpa [hhead] using hblank

/-- And it ends with none. -/
theorem getLast?_trim (s : List Char) : ∀ d ∈ (trim s).getLast?, isBlank d = false := by
  intro d hd
  obtain ⟨t, ht⟩ := List.getLast?_eq_some_iff.mp hd
  have hne : trim s ≠ [] := by simp [ht]
  have hblank := List.rdropWhile_last_not isBlank (s.dropWhile isBlank) hne
  simpa [← trim_eq, ht] using hblank

/-- Nothing is taken from a text that neither begins nor ends with a blank. -/
theorem trim_eq_self (hhead : ∀ d ∈ s.head?, isBlank d = false)
    (hlast : ∀ d ∈ s.getLast?, isBlank d = false) : trim s = s := by
  have hdrop : s.dropWhile isBlank = s := by
    cases s with
    | nil => rfl
    | cons d s => simp [hhead d rfl]
  rw [trim_eq, hdrop, List.rdropWhile_eq_self_iff]
  intro hne
  simp [hlast _ (List.getLast?_eq_some_getLast hne)]

/-- A line is trimmed to the same with the carriage return that belongs to its end. -/
theorem trim_chomp (l : List Char) : trim (chomp l) = trim l := by
  unfold chomp
  split
  · rename_i hlast
    obtain ⟨l, rfl⟩ := List.getLast?_eq_some_iff.mp hlast
    rw [List.dropLast_concat, trim_concat (by decide)]
  · rfl

/-! ### Lines -/

/-- A text is one line without a line feed, or a line with one and a text behind it. -/
@[elab_as_elim]
theorem byLines {P : List Char → Prop} (last : ∀ l, '\n' ∉ l → P l)
    (line : ∀ l r, '\n' ∉ l → P r → P (l ++ '\n' :: r)) (s : List Char) : P s := by
  induction hn : s.length using Nat.strong_induction_on generalizing s with
  | _ n ih =>
    by_cases hs : '\n' ∈ s
    · obtain ⟨l, r, rfl, hl⟩ := List.eq_append_cons_of_mem hs
      exact line l r hl (ih r.length (by simp [← hn]; omega) r rfl)
    · exact last s hs

theorem linesFrom_line (h : '\n' ∉ l) :
    linesFrom cur (l ++ '\n' :: r) = chomp (cur.reverse ++ l) :: lines r := by
  induction l generalizing cur with
  | nil => simp [linesFrom, lines]
  | cons c l ih =>
    obtain ⟨hc, hl⟩ := not_or.mp (List.mem_cons.not.mp h)
    simp [linesFrom, Ne.symm hc, ih hl]

theorem lines_line (h : '\n' ∉ l) : lines (l ++ '\n' :: r) = chomp l :: lines r :=
  linesFrom_line h

theorem linesFrom_last (h : '\n' ∉ l) (hne : cur.reverse ++ l ≠ []) :
    linesFrom cur l = [cur.reverse ++ l] := by
  induction l generalizing cur with
  | nil =>
    cases cur with
    | nil => simp at hne
    | cons c cur => simp [linesFrom]
  | cons c l ih =>
    obtain ⟨hc, hl⟩ := not_or.mp (List.mem_cons.not.mp h)
    simp [linesFrom, Ne.symm hc, ih hl]

theorem lines_last (h : '\n' ∉ l) (hne : l ≠ []) : lines l = [l] := linesFrom_last h hne

end GuestRuntime.Text
