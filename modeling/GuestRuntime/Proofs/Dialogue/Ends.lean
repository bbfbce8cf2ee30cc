import GuestRuntime.Guest.Frame

/-!
How a dialogue ends with one guest. `Ends` says that it ends without a panic, and what is then true
of its answer, of the calls it made and of the world; it is computed rule by rule, a call being what
the guest makes of it. A frame ends likewise, with the number of objects it has rooted. `Panics`
says the same of a dialogue that a panic ends, once the open frames are released. Main statements:
`Dialogue.ends_bind`, `Frame.ends_close` and `Frame.panics_close`.
-/

namespace GuestRuntime

variable {α β ρ σ : Type} [Guest ρ σ] {g : ρ} {w : World σ}

namespace Dialogue

/-- The calls of a dialogue that the guest answers, with their answers. -/
def exchanges (g : ρ) : Dialogue α → World σ → List Exchange
  | done _, _ => []
  | note n d, w => d.exchanges g { w with host := w.host.note n }
  | ask e _ k, w =>
    match w.call g e with
    | (.ok a, w) => ⟨e, a⟩ :: (k a).exchanges g w
    | (.error _, _) => []

/-- A parse that read its text to the end. -/
def Exchange.isParsed (x : Exchange) : Bool :=
  match x.entry, x.answer with
  | .parse _, (status, _) => status == parsedOk
  | _, _ => false

/-- An evaluation of an expression. -/
def Exchange.isEvaluation (x : Exchange) : Bool :=
  match x.entry with
  | .tryEval _ _ _ => true
  | _ => false

/-- How many texts were read to their end. -/
def parses (es : List Exchange) : Nat := es.countP Exchange.isParsed

/-- How many expressions were evaluated. -/
def evaluations (es : List Exchange) : Nat := es.countP Exchange.isEvaluation

@[simp] theorem parses_nil : parses [] = 0 := rfl

@[simp] theorem parses_cons (x : Exchange) (es : List Exchange) :
    parses (x :: es) = parses es + if x.isParsed then 1 else 0 :=
  List.countP_cons

@[simp] theorem evaluations_nil : evaluations [] = 0 := rfl

@[simp] theorem evaluations_cons (x : Exchange) (es : List Exchange) :
    evaluations (x :: es) = evaluations es + if x.isEvaluation then 1 else 0 :=
  List.countP_cons

@[simp] theorem parses_append (es es' : List Exchange) :
    parses (es ++ es') = parses es + parses es' :=
  List.countP_append

@[simp] theorem evaluations_append (es es' : List Exchange) :
    evaluations (es ++ es') = evaluations es + evaluations es' :=
  List.countP_append

/-- What can be true at the end: of the answer, the exchanges and the world. -/
abbrev Post (α σ : Type) := α → List Exchange → World σ → Prop

/-- The dialogue ends, and `Q` is true at its end. -/
def Ends (g : ρ) (d : Dialogue α) (w : World σ) (Q : Post α σ) : Prop :=
  ∃ a w', d.run g w = (.ok a, w') ∧ Q a (d.exchanges g w) w'

variable {P Q : Post α σ}

@[simp] theorem ends_done {a : α} : Ends g (done a) w Q ↔ Q a [] w := by
  constructor
  · rintro ⟨_, _, h, hQ⟩
    cases h
    exact hQ
  · exact fun hQ => ⟨a, w, rfl, hQ⟩

@[simp] theorem ends_note {n : Note} {d : Dialogue α} :
    Ends g (note n d) w Q ↔ Ends g d { w with host := w.host.note n } Q := Iff.rfl

@[simp] theorem ends_ask {e : Entry} {held : List Nat} {k : e.Answer → Dialogue α} :
    Ends g (ask e held k) w Q ↔ ∃ x w', w.call g e = (.ok x, w') ∧
      Ends g (k x) w' fun a es w'' => Q a (⟨e, x⟩ :: es) w'' := by
  simp only [Ends, run, exchanges]
  constructor
  · rintro ⟨a, w', h, hQ⟩
    rcases hc : w.call g e with ⟨p | x, w₁⟩
    · simp [hc] at h
    · simp only [hc] at h hQ
      exact ⟨x, w₁, rfl, a, w', h, hQ⟩
  · rintro ⟨x, w₁, hc, a, w', h, hQ⟩
    simp only [hc]
    exact ⟨a, w', h, hQ⟩

/-- A call whose answer is known. -/
theorem ends_ask_of {e : Entry} {held : List Nat} {k : e.Answer → Dialogue α} {x : e.Answer}
    {w' : World σ} (h : w.call g e = (.ok x, w')) :
    Ends g (ask e held k) w Q ↔ Ends g (k x) w' fun a es w'' => Q a (⟨e, x⟩ :: es) w'' := by
  rw [ends_ask, h]
  constructor
  · rintro ⟨_, _, hc, hk⟩
    cases hc
    exact hk
  · exact fun hk => ⟨x, w', rfl, hk⟩

theorem Ends.mono {d : Dialogue α} (h : Ends g d w P) (hPQ : ∀ a es w', P a es w' → Q a es w') :
    Ends g d w Q := by
  obtain ⟨a, w', hr, hP⟩ := h
  exact ⟨a, w', hr, hPQ _ _ _ hP⟩

theorem ends_congr {d : Dialogue α} (h : ∀ a es w', P a es w' ↔ Q a es w') :
    Ends g d w P ↔ Ends g d w Q :=
  ⟨fun hd => hd.mono fun a es w' => (h a es w').mp,
    fun hd => hd.mono fun a es w' => (h a es w').mpr⟩

/-- One dialogue after another ends as the second does from where the first ends. -/
theorem ends_bind {d : Dialogue α} {f : α → Dialogue β} {Q : Post β σ} :
    Ends g (d.bind f) w Q ↔
      Ends g d w fun a es w' => Ends g (f a) w' fun b es' w'' => Q b (es ++ es') w'' := by
  induction d generalizing w Q with
  | done a => simp [bind]
  | note n d ih => simp only [bind, ends_note]; exact ih
  | ask e held k ih => simp only [bind, ends_ask, ih, List.cons_append]

/-- A dialogue ends inside a frame as it does outside. -/
@[simp] theorem ends_within {n : Nat} {d : Dialogue α} :
    Ends g (d.within n) w Q ↔ Ends g d w Q := by
  induction d generalizing w Q with
  | done a => rfl
  | note m d ih => simp only [within, ends_note]; exact ih
  | ask e held k ih => simp only [within, ends_ask, ih]

/-! ### Panics -/

/-- What can be true of a panic: of it, the exchanges before it, and the world it leaves. -/
abbrev PanicPost (σ : Type) := Panic → List Exchange → World σ → Prop

/-- The guest panics in the dialogue, and `R` is true once the open frames are released. -/
def Panics (g : ρ) (d : Dialogue α) (w : World σ) (R : PanicPost σ) : Prop :=
  ∃ p w', d.run g w = (.error p, w') ∧ R p (d.exchanges g w) w'

section Panics

variable {R : PanicPost σ} {d : Dialogue α} {w' : World σ}

theorem Panics.mono {R' : PanicPost σ} (h : Panics g d w R)
    (hR : ∀ p es w', R p es w' → R' p es w') : Panics g d w R' := by
  obtain ⟨p, w', hr, hp⟩ := h
  exact ⟨p, w', hr, hR _ _ _ hp⟩

@[simp] theorem panics_note {n : Note} :
    Panics g (note n d) w R ↔ Panics g d { w with host := w.host.note n } R := Iff.rfl

/-- A call whose answer is known. -/
theorem panics_ask_of {e : Entry} {held : List Nat} {k : e.Answer → Dialogue α} {x : e.Answer}
    (hc : w.call g e = (.ok x, w'))
    (hk : Panics g (k x) w' fun p es w'' => R p (⟨e, x⟩ :: es) w'') :
    Panics g (ask e held k) w R := by
  obtain ⟨p, w'', hr, hp⟩ := hk
  refine ⟨p, w'', ?_, ?_⟩
  · simp only [run, hc, hr]
  · simpa only [exchanges, hc] using hp

/-- A call at which the guest panics. -/
theorem panics_ask {e : Entry} {held : List Nat} {k : e.Answer → Dialogue α} {p : Panic}
    (hc : w.call g e = (.error p, w')) (hR : R p [] (unwind g held w')) :
    Panics g (ask e held k) w R :=
  ⟨p, unwind g held w', by simp only [run, hc], by simpa only [exchanges, hc] using hR⟩

/-- What follows a panic plays no part. -/
theorem Panics.bind {f : α → Dialogue β} (h : Panics g d w R) : Panics g (d.bind f) w R := by
  induction d generalizing w R with
  | done a => obtain ⟨p, w', hr, -⟩ := h; cases hr
  | note n d ih => exact ih h
  | ask e held k ih =>
    obtain ⟨p, w'', hr, hp⟩ := h
    rcases hc : w.call g e with ⟨q | x, w₁⟩
    · simp only [run, exchanges, hc] at hr hp
      cases hr
      exact panics_ask hc hp
    · simp only [run, exchanges, hc] at hr hp
      exact panics_ask_of hc (ih x ⟨p, w'', hr, hp⟩)

theorem Ends.panics_bind {f : α → Dialogue β} (hd : Ends g d w P)
    (hf : ∀ a es w', P a es w' → Panics g (f a) w' fun p es' w'' => R p (es ++ es') w'') :
    Panics g (d.bind f) w R := by
  induction d generalizing w P R with
  | done a => exact hf a [] w (ends_done.mp hd)
  | note n d ih => exact ih hd hf
  | ask e held k ih =>
    obtain ⟨x, w₁, hc, hk⟩ := ends_ask.mp hd
    exact panics_ask_of hc (ih x hk fun a es w' => hf a (⟨e, x⟩ :: es) w')

end Panics

/-! ### Dialogues that neither parse nor evaluate -/

/-- The end of such a dialogue, with this answer in this world. -/
def Quiet (a : α) (w : World σ) : Post α σ := fun r es w' =>
  r = a ∧ parses es = 0 ∧ evaluations es = 0 ∧ w' = w

section Quiet

variable {a : α} {b : β} {w₁ w₂ : World σ}

theorem quiet_done : Ends g (done a) w (Quiet a w) := ends_done.mpr ⟨rfl, rfl, rfl, rfl⟩

theorem quiet_ask {e : Entry} {held : List Nat} {k : e.Answer → Dialogue α} {x : e.Answer}
    (hc : w.call g e = (.ok x, w₁)) (hp : (⟨e, x⟩ : Exchange).isParsed = false)
    (he : (⟨e, x⟩ : Exchange).isEvaluation = false) (hk : Ends g (k x) w₁ (Quiet a w₂)) :
    Ends g (ask e held k) w (Quiet a w₂) := by
  refine (ends_ask_of hc).mpr (hk.mono ?_)
  rintro r es w' ⟨hr, hes, hes', hw⟩
  simp [Quiet, hp, he, hr, hes, hes', hw]

theorem quiet_bind {d : Dialogue α} {f : α → Dialogue β} (hd : Ends g d w (Quiet a w₁))
    (hf : Ends g (f a) w₁ (Quiet b w₂)) : Ends g (d.bind f) w (Quiet b w₂) := by
  refine ends_bind.mpr (hd.mono ?_)
  rintro r es w' ⟨rfl, hes, hes', rfl⟩
  refine hf.mono ?_
  rintro r' es₂ w'' ⟨hr, hes₂, hes₂', hw⟩
  simp [Quiet, hr, hes, hes', hes₂, hes₂', hw]

end Quiet

end Dialogue

namespace Frame

/-- What can be true at the end of an activity: also of how many objects it has rooted. -/
abbrev Post (α σ : Type) := Except Fault α → Nat → List Dialogue.Exchange → World σ → Prop

/-- The activity ends, `n` objects being rooted before, and `Q` is true at its end. -/
def Ends (g : ρ) (f : Frame α) (n : Nat) (w : World σ) (Q : Post α σ) : Prop :=
  Dialogue.Ends g (f.run.run n) w fun p es w' => Q p.1 p.2 es w'

variable {n : Nat} {P Q : Post α σ}

theorem Ends.mono {f : Frame α} (h : Ends g f n w P)
    (hPQ : ∀ r m es w', P r m es w' → Q r m es w') : Ends g f n w Q :=
  Dialogue.Ends.mono h fun _ _ _ => hPQ _ _ _ _

theorem ends_bind {f : Frame α} {k : α → Frame β} {Q : Post β σ} :
    Ends g (f >>= k) n w Q ↔ Ends g f n w fun r m es w' =>
      match r with
      | .ok a => Ends g (k a) m w' fun r m es' w'' => Q r m (es ++ es') w''
      | .error e => Q (.error e) m es w' := by
  refine Dialogue.ends_bind.trans (Dialogue.ends_congr fun p es w' => ?_)
  obtain ⟨r, m⟩ := p
  cases r with
  | ok a => rfl
  | error e => exact Dialogue.ends_done.trans (by simp)

@[simp] theorem ends_pure {a : α} : Ends g (pure a) n w Q ↔ Q (.ok a) n [] w := Dialogue.ends_done

@[simp] theorem ends_fail {e : Fault} : Ends g (fail e) n w Q ↔ Q (.error e) n [] w :=
  Dialogue.ends_done

theorem ends_inner {d : Dialogue α} :
    Ends g (inner d) n w Q ↔ Dialogue.Ends g d w fun a es w' => Q (.ok a) n es w' := by
  rw [Ends, run_inner, Dialogue.ends_bind, Dialogue.ends_within]
  exact Dialogue.ends_congr fun a es w' => by simp

@[simp] theorem ends_remark {m : Note} {Q : Post Unit σ} :
    Ends g (remark m) n w Q ↔ Q (.ok ()) n [] { w with host := w.host.note m } := by
  refine (ends_inner (d := Dialogue.remark m)).trans ?_
  simp [Dialogue.remark]

@[simp] theorem ends_call {e : Entry} {Q : Post e.Answer σ} :
    Ends g (call e) n w Q ↔ ∃ x w', w.call g e = (.ok x, w') ∧ Q (.ok x) n [⟨e, x⟩] w' := by
  refine (ends_inner (d := Dialogue.call e)).trans ?_
  simp [Dialogue.call]

theorem Ends.call_bind {e : Entry} {k : e.Answer → Frame α} {x : e.Answer} {w' : World σ}
    (h : w.call g e = (.ok x, w'))
    (hk : Ends g (k x) n w' fun r m es w'' => Q r m (⟨e, x⟩ :: es) w'') :
    Ends g (call e >>= k) n w Q :=
  ends_bind.mpr (ends_call.mpr ⟨x, w', h, hk⟩)

@[simp] theorem ends_root {x : Obj} {Q : Post Obj σ} :
    Ends g (root x) n w Q ↔ ∃ y w', w.call g (.protect x) = (.ok y, w') ∧
      Q (.ok y) (n + 1) [⟨.protect x, y⟩] w' := by
  have h : (root x).run.run n =
      .ask (.protect x) (Dialogue.holding n) fun y => .done (.ok y, n + 1) := rfl
  rw [Ends, h]
  simp

theorem Ends.root_bind {x y : Obj} {k : Obj → Frame α} {w' : World σ}
    (h : w.call g (.protect x) = (.ok y, w'))
    (hk : Ends g (k y) (n + 1) w' fun r m es w'' => Q r m (⟨.protect x, y⟩ :: es) w'') :
    Ends g (root x >>= k) n w Q :=
  ends_bind.mpr (ends_root.mpr ⟨y, w', h, hk⟩)

theorem Ends.remark_bind {m : Note} {k : Unit → Frame α}
    (hk : Ends g (k ()) n { w with host := w.host.note m } Q) : Ends g (remark m >>= k) n w Q :=
  ends_bind.mpr (ends_remark.mpr hk)

theorem Ends.fail_bind {e : Fault} {k : β → Frame α} (hQ : Q (.error e) n [] w) :
    Ends g (fail e >>= k) n w Q :=
  ends_bind.mpr (ends_fail.mpr hQ)

/-- The guest panics in the activity, `n` objects being rooted before. -/
def Panics (g : ρ) (f : Frame α) (n : Nat) (w : World σ) (R : Dialogue.PanicPost σ) : Prop :=
  Dialogue.Panics g (f.run.run n) w R

section Panics

variable {R : Dialogue.PanicPost σ} {f : Frame α} {k : α → Frame β}

theorem Panics.bind (h : Panics g f n w R) : Panics g (f >>= k) n w R := Dialogue.Panics.bind h

theorem Ends.panics_bind (hf : Ends g f n w P)
    (hok : ∀ a m es w', P (.ok a) m es w' →
      Panics g (k a) m w' fun p es' w'' => R p (es ++ es') w'')
    (herror : ∀ e m es w', ¬ P (.error e) m es w') : Panics g (f >>= k) n w R := by
  refine Dialogue.Ends.panics_bind hf ?_
  rintro ⟨r, m⟩ es w' hP
  cases r with
  | ok a => exact hok a m es w' hP
  | error e => exact absurd hP (herror e m es w')

theorem panics_call_of {e : Entry} {k : e.Answer → Frame α} {x : e.Answer} {w' : World σ}
    (hc : w.call g e = (.ok x, w'))
    (hk : Panics g (k x) n w' fun p es w'' => R p (⟨e, x⟩ :: es) w'') :
    Panics g (call e >>= k) n w R := Dialogue.panics_ask_of hc hk

/-- A call at which the guest panics takes with it what the activity has rooted. -/
theorem panics_call {e : Entry} {k : e.Answer → Frame α} {p : Panic} {w' : World σ}
    (hc : w.call g e = (.error p, w'))
    (hR : R p [] (Dialogue.unwind g (Dialogue.holding n) w')) :
    Panics g (call e >>= k) n w R := Dialogue.panics_ask hc hR

theorem panics_close (h : Panics g f 0 w R) : Dialogue.Panics g (close f) w R :=
  Dialogue.Panics.bind h

end Panics

/-- Closing a frame releases what it rooted, by one call, and calls nothing if that is nothing. -/
theorem ends_close {f : Frame α} {Q : Dialogue.Post (Except Fault α) σ} :
    Dialogue.Ends g (close f) w Q ↔ Ends g f 0 w fun r n es w' =>
      if 0 < n then
        ∃ w'', w'.call g (.unprotect n) = (.ok (), w'') ∧ Q r (es ++ [⟨.unprotect n, ()⟩]) w''
      else Q r es w' := by
  refine Dialogue.ends_bind.trans (Dialogue.ends_congr fun p es w' => ?_)
  obtain ⟨r, n⟩ := p
  by_cases hn : 0 < n
  · simp only [hn, if_true, Dialogue.call, Dialogue.bind_eq, Dialogue.bind, Dialogue.pure_eq,
      Dialogue.ends_ask, Dialogue.ends_done]
    constructor
    · rintro ⟨_, h⟩
      exact h
    · exact fun h => ⟨(), h⟩
  · simp [hn]

end Frame
end GuestRuntime
