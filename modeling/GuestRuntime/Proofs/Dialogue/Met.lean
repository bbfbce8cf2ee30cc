import GuestRuntime.Guest.Dialogue

/-!
Calls and the worlds they are made in. A dialogue with one guest is a row of calls, each made in the
world that the one before has left, so what every call keeps true of the memory is true at all of
them and at the end:

        w ──call──▶ w₁ ──call──▶ w₂ ── … ──▶ w'
        I           I            I            I

So are the releases by which a panic goes through the open frames. Main statements: `Steps.run`,
`run_invariant` and `Meets.invariant`.
-/

namespace GuestRuntime.Dialogue

variable {α ρ σ : Type} [Guest ρ σ] {g : ρ} {d : Dialogue α} {e : Entry} {w w' : World σ}
  {I : σ → Prop}

/-- What holds from before to after each call of a guest's and each note, and goes on holding. -/
structure Steps (g : ρ) (R : World σ → World σ → Prop) : Prop where
  refl (w : World σ) : R w w
  trans {w w₁ w₂ : World σ} : R w w₁ → R w₁ w₂ → R w w₂
  note (w : World σ) (n : Note) : R w { w with host := w.host.note n }
  call (w : World σ) (e : Entry) : R w (w.call g e).2

theorem Steps.unwind {R : World σ → World σ → Prop} (hR : Steps g R) (held : List Nat)
    (w : World σ) : R w (unwind g held w) := by
  induction held generalizing w with
  | nil => exact hR.refl w
  | cons n held ih => exact hR.trans (hR.call w (.unprotect n)) (ih _)

/-- It holds from before to after a dialogue, wherever that ends. -/
theorem Steps.run {R : World σ → World σ → Prop} (hR : Steps g R) (d : Dialogue α)
    (w : World σ) : R w (d.run g w).2 := by
  induction d generalizing w with
  | done a => exact hR.refl w
  | note n d ih => exact hR.trans (hR.note w n) (ih _)
  | ask e held k ih =>
    have hcall := hR.call w e
    rw [Dialogue.run]
    rcases hc : w.call g e with ⟨p | x, w₁⟩
    · rw [hc] at hcall
      exact hR.trans hcall (hR.unwind held w₁)
    · rw [hc] at hcall
      exact hR.trans hcall (ih x w₁)

/-- `Meets g d w e w'`: in the dialogue with `g` from `w`, the call `e` is made in the world `w'`,
whether it is answered or the guest panics at it. -/
inductive Meets (g : ρ) : Dialogue α → World σ → Entry → World σ → Prop
  | now {e held k w} : Meets g (ask e held k) w e w
  | note {n d w e w'} (h : Meets g d { w with host := w.host.note n } e w') :
      Meets g (note n d) w e w'
  | later {e held k w x w₁ e' w'} (hc : w.call g e = (.ok x, w₁)) (h : Meets g (k x) w₁ e' w') :
      Meets g (ask e held k) w e' w'

/-- What every call of the guest keeps true of its memory. -/
def Invariant (g : ρ) (I : σ → Prop) : Prop := ∀ e m, I m → I (Guest.call g e m).memory

theorem Invariant.call (hI : Invariant g I) (hw : I w.memory) (e : Entry) :
    I (w.call g e).2.memory := hI e w.memory hw

theorem run_invariant (hI : Invariant g I) (d : Dialogue α) (hw : I w.memory) :
    I (d.run g w).2.memory :=
  Steps.run (R := fun w w' => I w.memory → I w'.memory)
    ⟨fun _ => id, fun h h' => h' ∘ h, fun _ _ => id, fun _ e hw => hI.call hw e⟩ d w hw

theorem Meets.invariant (hI : Invariant g I) (h : Meets g d w e w') (hw : I w.memory) :
    I w'.memory := by
  induction h with
  | now => exact hw
  | note _ ih => exact ih hw
  | @later e held k w x w₁ e' w' hc _ ih =>
    have hnext := hI.call hw e
    rw [hc] at hnext
    exact ih hnext

end GuestRuntime.Dialogue
