import GuestRuntime.Proofs.Dialogue.Balance
import GuestRuntime.Proofs.Dialogue.Lifeless
import GuestRuntime.Proofs.Fleet.Twin
import GuestRuntime.Proofs.Process.Operations
import GuestRuntime.Proofs.Session.Recorded

/-!
Two kinds of guests that are alike but for this: one shows the depth of its root stack, so that
evaluations are checked, and the other keeps it to itself.

        shows    depth d   evaluation   depth d     the answer, unless the depths differ
        hides    depth ?   evaluation   depth ?     the answer

The counter behind the stack may stand anywhere; below zero it is shown as zero. An evaluation
leaves it where it was, so the check never finds anything, and sessions with the one and with the
other answer alike. Main statement: `Likeness.useAll_whether_depth_shows`.
-/

namespace GuestRuntime

open Dialogue

variable {φ ρ σ φ' ρ' σ' α : Type}

/-- The fault of the check: the depth was another one after an evaluation. -/
def Fault.isImbalance : Fault → Bool
  | .violation (.imbalance _ _) => true
  | _ => false

theorem Fault.isImbalance_eq_false {f : Fault} (hf : f.isOfCode = true) :
    f.isImbalance = false := by
  cases f with
  | parse | runtime => rfl
  | _ => cases hf

/-- The answer without the number of a handle. -/
def Used.unnumbered : Used → Used
  | started r => .started (r.map Handle.unnumbered)
  | a => a

/-- The fault that an answer is. -/
def Used.fault? : Used → Option Fault
  | started (.error f) | evaluated (.error f) | stopped (.error f) => some f
  | _ => none

/-- Whatever this ends with, it is not the fault of the check. -/
def Passes (r : Except Panic (Except Fault α)) : Prop :=
  ∀ f, r = .ok (.error f) → f.isImbalance = false

theorem passes_error {f : Fault} (hf : f.isImbalance = false) :
    Passes (.ok (.error f) : Except Panic (Except Fault α)) := by
  rintro _ ⟨⟩
  exact hf

theorem passes_ok (a : α) : Passes (.ok (.ok a)) := by
  rintro f ⟨⟩

theorem passes_panic (p : Panic) : Passes (.error p : Except Panic (Except Fault α)) := by
  rintro f ⟨⟩

/-- An answer that is not the fault of the check. -/
def Used.Passes (a : Used) : Prop := ∀ f, a.fault? = some f → f.isImbalance = false

/-- As an answer, a result has the fault it has. -/
theorem Passes.used {r : Except Panic (Except Fault α)} (hr : Passes r)
    {wrap : Except Fault α → Used} (hwrap : ∀ x f, (wrap x).fault? = some f → x = .error f)
    {a : Used} (ha : r.map wrap = .ok a) : a.Passes := by
  intro f hf
  cases r with
  | error p => cases ha
  | ok x =>
    cases ha
    obtain rfl := hwrap x f hf
    exact hr f rfl

/-- Two worlds with memories that are related, and the same installation. -/
structure WorldsAlike (memories : σ → σ' → Prop) (w : World σ) (w' : World σ') : Prop where
  memory : memories w.memory w'.memory
  home : w.host.home = w'.host.home
  query : w.host.query = w'.host.query

/-- Two openings: both fail with the same fault, or both give a guest. -/
inductive OpenedAlike (guests : ρ → ρ' → Prop) (sources : φ → φ' → Prop)
    (worlds : World σ → World σ' → Prop) :
    Except Fault ρ × φ × World σ → Except Fault ρ' × φ' × World σ' → Prop
  | failed {f x x' w w'} (hf : f.isImbalance = false) (hx : sources x x') (hw : worlds w w') :
    OpenedAlike guests sources worlds (.error f, x, w) (.error f, x', w')
  | opened {g g' x x' w w'} (hg : guests g g') (hx : sources x x') (hw : worlds w w') :
    OpenedAlike guests sources worlds (.ok g, x, w) (.ok g', x', w')

/-- What relates the guests, memories and sources of one kind to those of another that answer alike,
except that the first show the depth of their root stack and the second do not. -/
structure Likeness (φ ρ σ φ' ρ' σ' : Type) [Guest ρ σ] [Source φ ρ σ] [Guest ρ' σ']
    [Source φ' ρ' σ'] where
  guests : ρ → ρ' → Prop
  memories : σ → σ' → Prop
  sources : φ → φ' → Prop
  /-- The counter behind the root stack of a guest of the first kind. -/
  counter : ρ → σ → Int
  answers {g g' m m'} (hg : guests g g') (hm : memories m m') (e : Entry)
    (he : e.asksDepth = false) : (Guest.call g e m).outcome = (Guest.call g' e m').outcome
  remains {g g' m m'} (hg : guests g g') (hm : memories m m') (e : Entry) :
    memories (Guest.call g e m).memory (Guest.call g' e m').memory
  shows {g g' m m'} (hg : guests g g') (hm : memories m m') :
    (Guest.call g .depth m).outcome = .ok (some (counter g m).toNat)
  hides {g g' m m'} (hg : guests g g') (hm : memories m m') :
    (Guest.call g' .depth m').outcome = .ok none
  /-- The counter goes by what is rooted and released. -/
  counts {g g' m m'} (hg : guests g g') (hm : memories m m') (e : Entry) {x : e.Answer}
    (hx : (Guest.call g e m).outcome = .ok x) :
    counter g (Guest.call g e m).memory = counter g m + e.rise
  returns {g g' m m'} (hg : guests g g') (hm : memories m m') (x : Obj) {y : Obj}
    (hy : (Guest.call g (.protect x) m).outcome = .ok y) : y = x
  arguments {x x'} (hx : sources x x') :
    (Source.settings x).arguments = (Source.settings x').arguments
  opens {x x' w w'} (hx : sources x x') (hw : WorldsAlike memories w w') :
    OpenedAlike guests sources (WorldsAlike memories) (Source.openGuest x w)
      (Source.openGuest x' w')

/-- The same stage, with related guests, and handles of the same ownership. -/
inductive StagesAlike (guests : ρ → ρ' → Prop) : Lifecycle ρ → Lifecycle ρ' → Prop
  | uninitialized : StagesAlike guests .uninitialized .uninitialized
  | running {g g'} (hg : guests g g') (n n' : Nat) (o : Ownership) :
    StagesAlike guests (.running g ⟨n, o⟩) (.running g' ⟨n', o⟩)
  | shutDown : StagesAlike guests .shutDown .shutDown

namespace Likeness

section Guests

variable [Guest ρ σ] [Source φ ρ σ] [Guest ρ' σ'] [Source φ' ρ' σ']
  (L : Likeness φ ρ σ φ' ρ' σ')

/-- The worlds of two guests that are alike. -/
abbrev Worlds (w : World σ) (w' : World σ') : Prop := WorldsAlike L.memories w w'

/-- Two sessions with guests that are alike. -/
structure Sessions (s : Session φ ρ σ) (s' : Session φ' ρ' σ') : Prop where
  source : L.sources s.source s'.source
  stage : StagesAlike L.guests s.lifecycle s'.lifecycle
  world : L.Worlds s.world s'.world

variable {L} {g : ρ} {g' : ρ'} {w : World σ} {w' : World σ'}

/-! ### Calls and dialogues -/

theorem Worlds.call (hw : L.Worlds w w') (hg : L.guests g g') (e : Entry) :
    L.Worlds (w.call g e).2 (w'.call g' e).2 :=
  ⟨L.remains hg hw.memory e, hw.home, hw.query⟩

theorem Worlds.note (hw : L.Worlds w w') (n : Note) :
    L.Worlds { w with host := w.host.note n } { w' with host := w'.host.note n } :=
  ⟨hw.memory, hw.home, hw.query⟩

theorem Worlds.unwind (hw : L.Worlds w w') (hg : L.guests g g') (held : List Nat) :
    L.Worlds (unwind g held w) (unwind g' held w') := by
  induction held generalizing w w' with
  | nil => exact hw
  | cons n held ih => exact ih (hw.call hg (.unprotect n))

/-- What a call that does not ask for the depth gives. -/
theorem call_alike (hg : L.guests g g') (hw : L.Worlds w w') (e : Entry)
    (he : e.asksDepth = false) :
    ∃ r t t', w.call g e = (r, t) ∧ w'.call g' e = (r, t') ∧ L.Worlds t t' ∧
      ∀ x, r = .ok x → rooting.admits ⟨e, x⟩ ∧
        L.counter g t.memory = L.counter g w.memory + e.rise := by
  have hsame : (w'.call g' e).1 = (w.call g e).1 := (L.answers hg hw.memory e he).symm
  refine ⟨_, _, _, rfl, Prod.ext hsame rfl, hw.call hg e, fun x hx => ⟨?_, ?_⟩⟩
  · cases e with
    | protect y => exact L.returns hg hw.memory y hx
    | _ => trivial
  · exact L.counts hg hw.memory e hx

/-- A dialogue that does not ask for the depth goes alike, and the counter by what it roots and
releases. -/
theorem run_alike {rule : Rule} {d : Dialogue α} {past : List Exchange} {Q : Goal α}
    (hd : d.Abides rule past Q) (hasks : ∀ past e, rule.permits past e → e.asksDepth = false)
    (hadmits : ∀ x, rooting.admits x → rule.admits x) (hg : L.guests g g') (hw : L.Worlds w w') :
    ∃ r t t', d.run g w = (r, t) ∧ d.run g' w' = (r, t') ∧ L.Worlds t t' ∧
      ∀ a, r = .ok a → ∃ es, Q a (past ++ es) ∧
        L.counter g t.memory = L.counter g w.memory + rises es := by
  -- Both take the same way, as no answer on it is a depth.
  induction d generalizing past w w' with
  | done a =>
    refine ⟨.ok a, w, w', rfl, rfl, hw, ?_⟩
    rintro a ⟨⟩
    refine ⟨[], ?_, by simp⟩
    rw [List.append_nil]
    exact hd
  | note n d ih => exact ih hd (hw.note n)
  | ask e held k ih =>
    obtain ⟨r, t, t', hc, hc', ht, hr⟩ := call_alike hg hw e (hasks past e hd.1)
    unfold run
    rw [hc, hc']
    cases r with
    | error p =>
      refine ⟨.error p, _, _, rfl, rfl, ht.unwind hg held, ?_⟩
      rintro a ⟨⟩
    | ok x =>
      obtain ⟨hadmitted, hcounter⟩ := hr x rfl
      obtain ⟨r, u, u', hrun, hrun', hu, hend⟩ := ih x (hd.2 x (hadmits _ hadmitted)) ht
      refine ⟨r, u, u', hrun, hrun', hu, fun a ha => ?_⟩
      obtain ⟨es, hQ, hes⟩ := hend a ha
      refine ⟨⟨e, x⟩ :: es, by simpa using hQ, ?_⟩
      rw [hes, hcounter, rises_cons, Int.add_assoc]

/-- An evaluation gives the same whether it is checked or not, and no fault of the check. -/
theorem run_evaluate_alike (hg : L.guests g g') (hw : L.Worlds w w') (code : String)
    (env : Option Obj) :
    ∃ r t t', (evaluate code env).run g w = (r, t) ∧ (evaluate code env).run g' w' = (r, t') ∧
      L.Worlds t t' ∧ Passes r := by
  -- One look at the depth: what each shows, and worlds that are alike, the counter where it was.
  have hlook {w : World σ} {w' : World σ'} (hw : L.Worlds w w') :
      ∃ t t', w.call g .depth = (.ok (some (L.counter g w.memory).toNat), t) ∧
        w'.call g' .depth = (.ok none, t') ∧ L.Worlds t t' ∧
        L.counter g t.memory = L.counter g w.memory := by
    have hshown := L.shows hg hw.memory
    have hcounter := L.counts hg hw.memory .depth hshown
    refine ⟨_, _, Prod.ext hshown rfl, Prod.ext (L.hides hg hw.memory) rfl, hw.call hg .depth, ?_⟩
    exact hcounter.trans (Int.add_zero _)
  obtain ⟨t, t', hc, hc', ht, hcounter⟩ := hlook hw
  have hdialogue := abides_evaluation_balanced code env
  obtain ⟨r, u, u', hrun, hrun', hu, hend⟩ := run_alike hdialogue
    (fun _ _ h => Entry.asksDepth_eq_false h.1) (fun _ h => ⟨trivial, h⟩) hg ht
  simp only [evaluate, call, Dialogue.bind_eq, Dialogue.bind, run, hc, hc', run_bind, hrun, hrun']
  cases r with
  | error p => exact ⟨.error p, u, u', rfl, rfl, hu, passes_panic p⟩
  | ok r =>
    obtain ⟨es, ⟨hblames, hes⟩, hsame⟩ := hend r rfl
    obtain ⟨v, v', hd, hd', hv, -⟩ := hlook hu
    have hdepth : L.counter g u.memory = L.counter g w.memory := by
      rw [List.nil_append] at hes
      rw [hsame, hes, Int.add_zero, hcounter]
    refine ⟨.ok r, v, v', ?_, ?_, hv, ?_⟩
    · simp only [hd, hdepth, if_true]
      rfl
    · simp only [hd']
      rfl
    · rintro f ⟨⟩
      exact Fault.isImbalance_eq_false (hblames f rfl)

/-! ### Sessions -/

/-- The rule that nobody asks for the depth. -/
def unasking : Rule where
  permits _ e := e.asksDepth = false
  admits _ := True

theorem unasking_permits (past : List Exchange) (e : Entry) (he : e.purpose = .life) :
    unasking.permits past e := by
  cases e with
  | depth => cases he
  | _ => rfl

theorem run_unasking_alike {d : Dialogue α} {Q : Goal α} (hd : d.Abides unasking [] Q)
    (hg : L.guests g g') (hw : L.Worlds w w') :
    ∃ r t t', d.run g w = (r, t) ∧ d.run g' w' = (r, t') ∧ L.Worlds t t' := by
  obtain ⟨r, t, t', hrun, hrun', ht, -⟩ := run_alike hd (fun _ _ h => h) (fun _ _ => trivial) hg hw
  exact ⟨r, t, t', hrun, hrun', ht⟩

variable {s : Session φ ρ σ} {s' : Session φ' ρ' σ'}

/-- Two answers to a start: the same panic, the same fault, which is not of the check, or handles of
the same ownership. -/
inductive StartedAlike :
    Except Panic (Except Fault Handle) → Except Panic (Except Fault Handle) → Prop
  | panicked (p : Panic) : StartedAlike (.error p) (.error p)
  | refused {f : Fault} (hf : f.isImbalance = false) :
    StartedAlike (.ok (.error f)) (.ok (.error f))
  | started (n n' : Nat) (o : Ownership) : StartedAlike (.ok (.ok ⟨n, o⟩)) (.ok (.ok ⟨n', o⟩))

theorem StartedAlike.passes {r r' : Except Panic (Except Fault Handle)} (h : StartedAlike r r') :
    Passes r := by
  cases h with
  | panicked p => exact passes_panic p
  | refused hf => exact passes_error hf
  | started n n' o => exact passes_ok _

theorem start_alike (h : L.Sessions s s') :
    ∃ r r' t t', s.start = (r, t) ∧ s'.start = (r', t') ∧ StartedAlike r r' ∧ L.Sessions t t' := by
  obtain ⟨x, l, w⟩ := s
  obtain ⟨x', l', w'⟩ := s'
  obtain ⟨hx, hl, hw⟩ := h
  dsimp only at hx hl hw
  cases hl with
  | shutDown => exact ⟨_, _, _, _, rfl, rfl, .refused rfl, hx, .shutDown, hw⟩
  | running hg n n' o => exact ⟨_, _, _, _, rfl, rfl, .started n n' o, hx, .running hg n n' o, hw⟩
  | uninitialized =>
    unfold Session.start
    dsimp only
    rw [← L.arguments hx]
    cases Terminated.ofTexts (Source.settings x).arguments with
    | error i => exact ⟨_, _, _, _, rfl, rfl, .refused rfl, hx, .uninitialized, hw⟩
    | ok arguments =>
      have hopens := L.opens hx hw
      generalize Source.openGuest x w = opening at hopens
      generalize Source.openGuest x' w' = opening' at hopens
      cases hopens with
      | failed hf hx hw => exact ⟨_, _, _, _, rfl, rfl, .refused hf, hx, .uninitialized, hw⟩
      | opened hg hx hw =>
        obtain ⟨r, t, t', hrun, hrun', ht⟩ :=
          run_unasking_alike (abides_bringUp unasking_permits arguments) hg hw
        simp only [Session.converse, hrun, hrun']
        cases r with
        | error p => exact ⟨_, _, _, _, rfl, rfl, .panicked p, hx, .uninitialized, ht⟩
        | ok o =>
          exact ⟨_, _, _, _, rfl, rfl, .started _ _ o, hx, .running hg _ _ o,
            ⟨ht.memory, ht.home, ht.query⟩⟩

theorem stop_alike (h : L.Sessions s s') (fatal : Bool) :
    ∃ r t t', s.stop fatal = (r, t) ∧ s'.stop fatal = (r, t') ∧ L.Sessions t t' ∧ Passes r := by
  obtain ⟨x, l, w⟩ := s
  obtain ⟨x', l', w'⟩ := s'
  obtain ⟨hx, hl, hw⟩ := h
  dsimp only at hx hl hw
  cases hl with
  | uninitialized =>
    exact ⟨_, _, _, rfl, rfl, ⟨hx, .uninitialized, hw⟩, passes_error rfl⟩
  | shutDown => exact ⟨_, _, _, rfl, rfl, ⟨hx, .shutDown, hw.note _⟩, passes_error rfl⟩
  | running hg n n' o =>
    cases o with
    | adopted =>
      exact ⟨_, _, _, rfl, rfl, ⟨hx, .running hg n n' .adopted, hw⟩, passes_error rfl⟩
    | owned =>
      obtain ⟨r, t, t', hrun, hrun', ht⟩ :=
        run_unasking_alike (abides_tearDown unasking_permits fatal) hg hw
      simp only [Session.stop, Session.converse, hrun, hrun']
      cases r with
      | error p => exact ⟨_, _, _, rfl, rfl, ⟨hx, .running hg n n' .owned, ht⟩, passes_panic p⟩
      | ok u => exact ⟨_, _, _, rfl, rfl, ⟨hx, .shutDown, ht.note _⟩, passes_ok u⟩

theorem evaluate_alike (h : L.Sessions s s') (code : String) (env : Option Obj) :
    ∃ r t t', s.evaluate code env = (r, t) ∧ s'.evaluate code env = (r, t') ∧ L.Sessions t t' ∧
      Passes r := by
  obtain ⟨r, r', t, t', hs, hs', hr, ht⟩ := start_alike h
  unfold Session.evaluate
  rw [hs, hs']
  cases hr with
  | panicked p => exact ⟨_, _, _, rfl, rfl, ht, passes_panic p⟩
  | refused hf => exact ⟨_, _, _, rfl, rfl, ht, passes_error hf⟩
  | started n n' o =>
    obtain ⟨x, l, w⟩ := t
    obtain ⟨x', l', w'⟩ := t'
    obtain ⟨hx, hl, hw⟩ := ht
    dsimp only at hx hl hw ⊢
    cases hl with
    | running hg m m' o =>
      obtain ⟨r, u, u', hrun, hrun', hu, hend⟩ := run_evaluate_alike hg hw code env
      simp only [Session.converse, hrun, hrun']
      exact ⟨_, _, _, rfl, rfl, ⟨hx, .running hg m m' o, hu⟩, hend⟩
    | uninitialized =>
      exact ⟨_, _, _, rfl, rfl, ⟨hx, .uninitialized, hw⟩, passes_error rfl⟩
    | shutDown => exact ⟨_, _, _, rfl, rfl, ⟨hx, .shutDown, hw⟩, passes_error rfl⟩

/-! ### Runs -/

/-- Two results of a use or of many: the same panic, or the same answers but for the numbers of
handles, of which none is the fault of the check; and sessions that are alike. -/
structure UsedAlike (L : Likeness φ ρ σ φ' ρ' σ') (x : Session.Result φ ρ σ (List Used))
    (x' : Session.Result φ' ρ' σ' (List Used)) : Prop where
  answers : x.1.map (List.map Used.unnumbered) = x'.1.map (List.map Used.unnumbered)
  faults : ∀ as, x.1 = .ok as → ∀ a ∈ as, a.Passes
  sessions : L.Sessions x.2 x'.2

theorem use_alike (h : L.Sessions s s') (u : Use) :
    ∃ r r' t t', s.use u = (r, t) ∧ s'.use u = (r', t') ∧
      r.map Used.unnumbered = r'.map Used.unnumbered ∧
      (∀ a, r = .ok a → a.Passes) ∧ L.Sessions t t' := by
  cases u with
  | start =>
    obtain ⟨r, r', t, t', hs, hs', hr, ht⟩ := start_alike h
    simp only [Session.use, hs, hs']
    refine ⟨_, _, _, _, rfl, rfl, ?_, fun a ha => hr.passes.used ?_ ha, ht⟩
    · cases hr <;> rfl
    · rintro (f | x) _ ⟨⟩
      rfl
  | evaluate code env =>
    obtain ⟨r, t, t', hs, hs', ht, hr⟩ := evaluate_alike h code env
    simp only [Session.use, hs, hs']
    refine ⟨_, _, _, _, rfl, rfl, rfl, fun a ha => hr.used ?_ ha, ht⟩
    rintro (f | x) _ ⟨⟩
    rfl
  | stop fatal =>
    obtain ⟨r, t, t', hs, hs', ht, hr⟩ := stop_alike h fatal
    simp only [Session.use, hs, hs']
    refine ⟨_, _, _, _, rfl, rfl, rfl, fun a ha => hr.used ?_ ha, ht⟩
    rintro (f | x) _ ⟨⟩
    rfl

theorem useAll_alike (h : L.Sessions s s') (us : List Use) :
    UsedAlike L (s.useAll us) (s'.useAll us) := by
  induction us generalizing s s' with
  | nil =>
    refine ⟨rfl, ?_, h⟩
    rintro _ ⟨⟩ a ha
    cases ha
  | cons u us ih =>
    obtain ⟨r, r', t, t', hs, hs', hr, hf, ht⟩ := use_alike h u
    unfold Session.useAll
    rw [hs, hs']
    rcases r with p | a
    · rcases r' with p' | a'
      · cases hr
        refine ⟨rfl, ?_, ht⟩
        rintro as ⟨⟩
      · cases hr
    · rcases r' with p' | a'
      · cases hr
      · obtain ⟨hanswers, hfaults, hsessions⟩ := ih ht
        have ha : a.unnumbered = a'.unnumbered := Except.ok.inj hr
        dsimp only
        generalize t.useAll us = y at hanswers hfaults hsessions ⊢
        generalize t'.useAll us = y' at hanswers hsessions ⊢
        obtain ⟨y | as, v⟩ := y
        · obtain ⟨y' | as', v'⟩ := y'
          · refine ⟨hanswers, ?_, hsessions⟩
            rintro as ⟨⟩
          · cases hanswers
        · obtain ⟨y' | as', v'⟩ := y'
          · cases hanswers
          · have has : as.map Used.unnumbered = as'.map Used.unnumbered := Except.ok.inj hanswers
            refine ⟨?_, ?_, hsessions⟩
            · simp [Except.map, ha, has]
            · rintro _ ⟨⟩ b hb
              rcases List.mem_cons.mp hb with rfl | hb
              · exact hf b rfl
              · exact hfaults as rfl b hb

theorem Sessions.state_eq (h : L.Sessions s s') : s.state = s'.state := by
  obtain ⟨x, l, w⟩ := s
  obtain ⟨x', l', w'⟩ := s'
  obtain ⟨-, hl, -⟩ := h
  dsimp only at hl
  cases hl <;> rfl

end Guests

/-! ### Recorded calls -/

variable [Guest ρ σ] [Source φ ρ σ] [Guest ρ' σ'] [Source φ' ρ' σ']

/-- Recorded guests are alike if the guests are, and so far have had the same calls. -/
def recorded (L : Likeness φ ρ σ φ' ρ' σ') :
    Likeness (Recorded φ) (Recorded ρ) (Record σ) (Recorded φ') (Recorded ρ') (Record σ') where
  guests g g' := L.guests g.inner g'.inner
  memories m m' := L.memories m.memory m'.memory ∧ m.calls = m'.calls
  sources x x' := L.sources x.inner x'.inner
  counter g m := L.counter g.inner m.memory
  answers hg hm e he := L.answers hg hm.1 e he
  remains hg hm e := ⟨L.remains hg hm.1 e, congrArg (· ++ [e]) hm.2⟩
  shows hg hm := L.shows hg hm.1
  hides hg hm := L.hides hg hm.1
  counts hg hm e _ hx := L.counts hg hm.1 e hx
  returns hg hm x _ hy := L.returns hg hm.1 x hy
  arguments hx := L.arguments hx
  opens {x x' w w'} hx hw := by
    have hplain : WorldsAlike L.memories w.plain w'.plain := ⟨hw.memory.1, hw.home, hw.query⟩
    have hopens := L.opens hx hplain
    dsimp only [Source.openGuest]
    generalize Source.openGuest x.inner w.plain = opening at hopens
    generalize Source.openGuest x'.inner w'.plain = opening' at hopens
    cases hopens with
    | failed hf hx h => exact .failed hf hx ⟨⟨h.memory, hw.memory.2⟩, h.home, h.query⟩
    | opened hg hx h => exact .opened hg hx ⟨⟨h.memory, hw.memory.2⟩, h.home, h.query⟩

/-- The check never changes an answer. Of guests that are alike, a session with one that shows the
depth of its root stack and a session with one that hides it, used in the same way, give the same
answers but for the numbers of handles, are at the same stage after and have made the same calls,
wherever the counter behind the stack stood; and no answer is the fault of the check. -/
theorem useAll_whether_depth_shows (L : Likeness φ ρ σ φ' ρ' σ') {s : Session.Kept φ ρ σ}
    {s' : Session.Kept φ' ρ' σ'} (h : L.recorded.Sessions s s') (uses : List Use) :
    (s.useAll uses).1.map (List.map Used.unnumbered) =
        (s'.useAll uses).1.map (List.map Used.unnumbered) ∧
      (s.useAll uses).2.state = (s'.useAll uses).2.state ∧
      (s.useAll uses).2.world.memory.calls = (s'.useAll uses).2.world.memory.calls ∧
      ∀ answers, (s.useAll uses).1 = .ok answers →
        ∀ a ∈ answers, ∀ f, a.fault? = some f → f.isImbalance = false := by
  obtain ⟨hanswers, hfaults, hsessions⟩ := useAll_alike h uses
  exact ⟨hanswers, hsessions.state_eq, hsessions.world.memory.2, hfaults⟩

end Likeness
end GuestRuntime
