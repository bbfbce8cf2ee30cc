import GuestRuntime.Proofs.Dialogue.Ordinary

/-!
The counter behind the root stack along an evaluation. Rooting an object raises it by one, releasing
`n` lowers it by `n`, and nothing else moves it:

        frame     own roots   ( explanation )   release
        counter   + k         + j       - j     - k

What a frame raises it by it lowers it by in the end, in whatever way the frame ends and wherever
the counter was, below zero too. Main statement: `abides_evaluation_balanced`.
-/

namespace GuestRuntime

/-- By how much a call raises the counter behind the root stack. -/
def Entry.rise : Entry → Int
  | .protect _ => 1
  | .unprotect n => -n
  | _ => 0

namespace Dialogue

/-- By how much these exchanges raise the counter. -/
def rises : List Exchange → Int
  | [] => 0
  | x :: es => x.entry.rise + rises es

variable {es : List Exchange} {Inside : List Exchange → Prop}

@[simp] theorem rises_nil : rises [] = 0 := rfl

@[simp] theorem rises_cons (x : Exchange) (es : List Exchange) :
    rises (x :: es) = x.entry.rise + rises es :=
  rfl

@[simp] theorem rises_append (es es' : List Exchange) :
    rises (es ++ es') = rises es + rises es' := by
  induction es with
  | nil => exact (Int.zero_add _).symm
  | cons x es ih => rw [List.cons_append, rises_cons, rises_cons, ih, Int.add_assoc]

/-- Where nothing is released, the counter rises with every object that is rooted. -/
theorem rises_eq_rootings (h : ∀ x ∈ es, x.entry.purpose ≠ .release) : rises es = rootings es := by
  induction es with
  | nil => rfl
  | cons x es ih =>
    have hrest := ih fun y hy => h y (List.mem_cons_of_mem x hy)
    have hx := h x List.mem_cons_self
    obtain ⟨e, a⟩ := x
    rw [rises_cons, hrest]
    cases e with
    | protect y => simp [Entry.rise, rootings, Entry.purpose]; omega
    | unprotect n => exact absurd rfl hx
    | _ => simp [Entry.rise, rootings, Entry.purpose]

/-- A frame leaves the counter where it was, if what is inside does. -/
theorem IsFrame.rises_eq (h : IsFrame Inside es) (hin : ∀ inner, Inside inner → rises inner = 0) :
    rises es = 0 := by
  cases h with
  | unopened => rfl
  | closed hown hroot hinner =>
    rw [rises_append, rises_append, rises_eq_rootings hown, hin _ hinner]
    simp only [rises_cons, rises_nil, Entry.rise]
    omega

theorem IsExplanation.rises_eq (h : IsExplanation es) : rises es = 0 := by
  rcases h with rfl | ⟨-, h⟩
  · rfl
  · refine h.rises_eq ?_
    rintro _ rfl
    rfl

/-- An evaluation makes ordinary calls that leave the counter where it was, and a fault it ends with
is its code's. -/
theorem abides_evaluation_balanced (code : String) (env : Option Obj) :
    (evaluation diagnostic code env).Abides (ordinary.both rooting) [] fun r es =>
      BlamesCode r ∧ rises es = 0 := by
  have hframe : (evaluation diagnostic code env).Abides rooting [] fun _ past' =>
      ∃ es, past' = [] ++ es ∧ IsFrame IsExplanation es := by
    refine abides_evaluation Nat.zero_lt_two (.inl rfl) fun past' h => abides_diagnostic ?_
    exact h ▸ Nat.one_lt_two
  have hordinary := ordinary_evaluation isOrdinary_diagnostic code env []
  refine (hordinary.both hframe).mono ?_
  rintro r _ ⟨hr, es, rfl, hes⟩
  exact ⟨hr, hes.rises_eq fun _ => IsExplanation.rises_eq⟩

end Dialogue
end GuestRuntime
