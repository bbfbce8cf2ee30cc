import GuestRuntime.Proofs.Dialogue.Ends

/-!
What a dialogue does, whoever answers it. A rule says which calls may follow which exchanges, and
which answers a guest may give; `Abides` goes through the whole tree of a dialogue:

        d ──call e──▶ any answer x ──▶ d' ──▶ … ──▶ done a
             │                                        │
        permitted after the exchanges before     true of a and of all exchanges

It is computed construct by construct as `Ends` is, but of all guests at once. What it gives for one
guest: every call the guest gets is permitted, the one included at which it panics, and if there is
an end, then what is to be true there is. Main statements: `Dialogue.Abides.permits` and
`Dialogue.Abides.at_end`.
-/

namespace GuestRuntime

variable {α β ρ σ : Type}

namespace Dialogue

/-- `d.Runs es a`: the dialogue ends with `a` when its calls are answered as `es` says. -/
inductive Runs : Dialogue α → List Exchange → α → Prop
  | done (a : α) : Runs (.done a) [] a
  | note {n d es a} : Runs d es a → Runs (.note n d) es a
  | ask {e held k es a} (x : e.Answer) : Runs (k x) es a → Runs (.ask e held k) (⟨e, x⟩ :: es) a

/-- Which calls may follow which exchanges, and which answers a guest may give. -/
structure Rule where
  permits : List Exchange → Entry → Prop
  admits : Exchange → Prop

/-- What can be true at an end: of the answer and of all exchanges up to there. -/
abbrev Goal (α : Type) := α → List Exchange → Prop

/-- After `past`, every call is permitted where it stands, and `Q` is true wherever the end is. -/
def Abides (rule : Rule) : Dialogue α → List Exchange → Goal α → Prop
  | done a, past, Q => Q a past
  | note _ d, past, Q => d.Abides rule past Q
  | ask e _ k, past, Q =>
    rule.permits past e ∧
      ∀ x, rule.admits ⟨e, x⟩ → (k x).Abides rule (past ++ [⟨e, x⟩]) Q

variable {rule : Rule} {past es : List Exchange} {P Q : Goal α} {d : Dialogue α}

theorem Abides.mono (h : d.Abides rule past P) (hPQ : ∀ a past', P a past' → Q a past') :
    d.Abides rule past Q := by
  induction d generalizing past with
  | done a => exact hPQ a past h
  | note n d ih => exact ih h
  | ask e held k ih => exact ⟨h.1, fun x hx => ih x (h.2 x hx)⟩

/-- What abides by a rule abides by one that permits more and of which guests admit less. -/
theorem Abides.weaken {rule' : Rule} (h : d.Abides rule past Q)
    (hp : ∀ past e, rule.permits past e → rule'.permits past e)
    (ha : ∀ x, rule'.admits x → rule.admits x) : d.Abides rule' past Q := by
  induction d generalizing past with
  | done a => exact h
  | note n d ih => exact ih h
  | ask e held k ih => exact ⟨hp past e h.1, fun x hx => ih x (h.2 x (ha _ hx))⟩

/-- Two rules at once. -/
def Rule.both (r r' : Rule) : Rule where
  permits past e := r.permits past e ∧ r'.permits past e
  admits x := r.admits x ∧ r'.admits x

theorem Abides.both {rule' : Rule} (h : d.Abides rule past P) (h' : d.Abides rule' past Q) :
    d.Abides (rule.both rule') past fun a past' => P a past' ∧ Q a past' := by
  induction d generalizing past with
  | done a => exact ⟨h, h'⟩
  | note n d ih => exact ih h h'
  | ask e held k ih =>
    exact ⟨⟨h.1, h'.1⟩, fun x hx => ih x (h.2 x hx.1) (h'.2 x hx.2)⟩

/-- One dialogue after another abides as the second does after what the first has said. -/
theorem abides_bind {f : α → Dialogue β} {Q : Goal β} :
    (d.bind f).Abides rule past Q ↔
      d.Abides rule past fun a past' => (f a).Abides rule past' Q := by
  induction d generalizing past with
  | done a => rfl
  | note n d ih => exact ih
  | ask e held k ih => exact and_congr_right fun _ => forall₂_congr fun x _ => ih x

/-- A dialogue abides inside a frame as it does outside. -/
theorem abides_within {n : Nat} : (d.within n).Abides rule past Q ↔ d.Abides rule past Q := by
  induction d generalizing past with
  | done a => rfl
  | note m d ih => exact ih
  | ask e held k ih => exact and_congr_right fun _ => forall₂_congr fun x _ => ih x

/-- The exchanges from `past` on are a path through the dialogue. -/
theorem Abides.and_runs (h : d.Abides rule past Q) :
    d.Abides rule past fun a past' => Q a past' ∧ ∃ es, past' = past ++ es ∧ Runs d es a := by
  induction d generalizing past with
  | done a => exact ⟨h, [], (List.append_nil past).symm, .done a⟩
  | note n d ih =>
    refine (ih h).mono ?_
    rintro a past' ⟨hQ, es, rfl, hr⟩
    exact ⟨hQ, es, rfl, .note hr⟩
  | ask e held k ih =>
    refine ⟨h.1, fun x hx => (ih x (h.2 x hx)).mono ?_⟩
    rintro a past' ⟨hQ, es, rfl, hr⟩
    exact ⟨hQ, ⟨e, x⟩ :: es, List.append_assoc _ _ _, .ask x hr⟩

/-! ### With one guest -/

variable [Guest ρ σ] {g : ρ} {w w' : World σ}

/-- `Calls g d w es e`: in the dialogue with `g` the call `e` comes after the exchanges `es`,
whether it is answered or the guest panics at it. -/
inductive Calls (g : ρ) : Dialogue α → World σ → List Exchange → Entry → Prop
  | now {e held k w} : Calls g (ask e held k) w [] e
  | note {n d w es e} : Calls g d { w with host := w.host.note n } es e → Calls g (note n d) w es e
  | later {e held k w x w' es e'} : w.call g e = (.ok x, w') → Calls g (k x) w' es e' →
    Calls g (ask e held k) w (⟨e, x⟩ :: es) e'

/-- What is answered was called. -/
theorem calls_of_exchanges {x : Exchange} {rest : List Exchange}
    (h : d.exchanges g w = es ++ x :: rest) : Calls g d w es x.entry := by
  induction d generalizing w es with
  | done a => simp [exchanges] at h
  | note n d ih => exact .note (ih h)
  | ask e held k ih =>
    simp only [exchanges] at h
    rcases hc : w.call g e with ⟨p | y, w₁⟩
    · simp [hc] at h
    · simp only [hc] at h
      cases es with
      | nil =>
        obtain ⟨rfl, -⟩ := List.cons.inj h
        exact .now
      | cons z es =>
        obtain ⟨rfl, hes⟩ := List.cons.inj h
        exact .later hc (ih y hes)

/-- A guest that gives no other answers than a rule admits. -/
def Rule.Admitted (rule : Rule) (g : ρ) : Prop :=
  ∀ (e : Entry) (x : e.Answer) (w w' : World σ), w.call g e = (.ok x, w') → rule.admits ⟨e, x⟩

theorem Abides.permits {e : Entry} (h : d.Abides rule past Q) (hg : rule.Admitted g)
    (hc : Calls g d w es e) : rule.permits (past ++ es) e := by
  induction hc generalizing past with
  | now => rw [List.append_nil]; exact h.1
  | note _ ih => exact ih h
  | later hx _ ih =>
    have := ih (h.2 _ (hg _ _ _ _ hx))
    rwa [List.append_assoc] at this

theorem Abides.at_end {a : α} (h : d.Abides rule past Q) (hg : rule.Admitted g)
    (hr : d.run g w = (.ok a, w')) : Q a (past ++ d.exchanges g w) := by
  induction d generalizing past w with
  | done b =>
    cases hr
    rw [exchanges, List.append_nil]
    exact h
  | note n d ih => exact ih h hr
  | ask e held k ih =>
    simp only [run, exchanges] at hr ⊢
    rcases hc : w.call g e with ⟨p | x, w₁⟩
    · simp [hc] at hr
    · simp only [hc] at hr ⊢
      have := ih x (h.2 x (hg e x w w₁ hc)) hr
      rwa [List.append_assoc] at this

end Dialogue

namespace Frame

open Dialogue (Rule Exchange)

/-- What can be true at the end of an activity: also of how many objects it has rooted. -/
abbrev Goal (α : Type) := Except Fault α → Nat → List Exchange → Prop

/-- The activity abides by a rule after `past`, `n` objects being rooted before. -/
def Abides (rule : Rule) (f : Frame α) (n : Nat) (past : List Exchange) (Q : Goal α) : Prop :=
  (f.run.run n).Abides rule past fun p past' => Q p.1 p.2 past'

variable {rule : Rule} {n : Nat} {past : List Exchange} {P Q : Goal α} {f : Frame α}

theorem Abides.mono (h : f.Abides rule n past P) (hPQ : ∀ r m past', P r m past' → Q r m past') :
    f.Abides rule n past Q :=
  Dialogue.Abides.mono h fun _ _ => hPQ _ _ _

theorem abides_pure {a : α} (h : Q (.ok a) n past) : Abides rule (pure a) n past Q := h

theorem abides_inner {d : Dialogue α} (h : d.Abides rule past fun a past' => Q (.ok a) n past') :
    Abides rule (inner d) n past Q := by
  rw [Abides, run_inner]
  exact Dialogue.abides_bind.mpr (Dialogue.abides_within.mpr h)

theorem Abides.bind {k : α → Frame β} {Q : Goal β} (h : f.Abides rule n past P)
    (ha : ∀ a m past', P (.ok a) m past' → (k a).Abides rule m past' Q)
    (he : ∀ e m past', P (.error e) m past' → Q (.error e) m past') :
    Abides rule (f >>= k) n past Q := by
  refine Dialogue.abides_bind.mpr (Dialogue.Abides.mono h ?_)
  rintro ⟨r, m⟩ past' hr
  cases r with
  | ok a => exact ha a m past' hr
  | error e => exact he e m past' hr

theorem Abides.call_bind {e : Entry} {k : e.Answer → Frame α} (hp : rule.permits past e)
    (hk : ∀ x, rule.admits ⟨e, x⟩ → (k x).Abides rule n (past ++ [⟨e, x⟩]) Q) :
    Abides rule (call e >>= k) n past Q := ⟨hp, hk⟩

theorem Abides.root_bind {x : Obj} {k : Obj → Frame α} (hp : rule.permits past (.protect x))
    (hk : ∀ y, rule.admits ⟨.protect x, y⟩ →
      (k y).Abides rule (n + 1) (past ++ [⟨.protect x, y⟩]) Q) :
    Abides rule (root x >>= k) n past Q := ⟨hp, hk⟩

theorem Abides.remark_bind {m : Note} {k : Unit → Frame α} (hk : (k ()).Abides rule n past Q) :
    Abides rule (remark m >>= k) n past Q := hk

theorem Abides.fail_bind {e : Fault} {k : β → Frame α} (hQ : Q (.error e) n past) :
    Abides rule (fail e >>= k) n past Q := hQ

/-- A frame that has rooted something closes with one call more. -/
theorem abides_close {Q : Dialogue.Goal (Except Fault α)}
    (h : f.Abides rule 0 past fun r n past' => 0 < n ∧ rule.permits past' (.unprotect n) ∧
      Q r (past' ++ [⟨.unprotect n, ()⟩])) :
    f.close.Abides rule past Q := by
  refine Dialogue.abides_bind.mpr (Dialogue.Abides.mono h ?_)
  rintro ⟨r, n⟩ past' ⟨hn, hp, hQ⟩
  have hn : 0 < n := hn
  simp only [hn, if_true]
  exact ⟨hp, fun _ _ => hQ⟩

end Frame
end GuestRuntime
