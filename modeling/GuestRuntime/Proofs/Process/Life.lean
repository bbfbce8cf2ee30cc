import GuestRuntime.Proofs.Process.Operations
import GuestRuntime.Proofs.Session.Life

/-!
The shared session over the life of its process, call by call to the guest. The hook is registered
once, by a start that makes the session an owner, and after a stop it finds nothing to do:

        operation ─▶ operation ─▶ … ─▶ exit ──hook──▶ stop, if running

So the guest is started once at most and ended once at most, and one that was found running is
neither. Main statement: `run_livesOnce`.
-/

namespace GuestRuntime

variable {φ ρ σ α π : Type}

instance [Configurable φ] : Configurable (Recorded φ) where
  ofSettings settings := ⟨Configurable.ofSettings settings⟩

namespace Session

variable [Guest ρ σ] [Source φ ρ σ]

theorem faithful_plain [Configurable φ] : Faithful (plain : Kept φ ρ σ → Session φ ρ σ) where
  state := state_plain
  note _ _ := rfl
  anew _ _ := rfl
  start := start_plain
  evaluate := evaluate_plain
  stop := stop_plain

theorem use_leads (hsteady : Steady ρ) (s : Kept φ ρ σ) (u : Use) :
    ∃ a, (s.use u).1 = .ok a ∧ Leads s (s.use u).2 := by
  cases u with
  | start =>
    obtain ⟨r, s', hr, hmoved, -⟩ := start_moved hsteady s
    rw [use, hr]
    exact ⟨_, rfl, hmoved.leads⟩
  | evaluate code env =>
    obtain ⟨r, s', hr, hmoved⟩ := evaluate_moved hsteady s code env
    rw [use, hr]
    exact ⟨_, rfl, hmoved.leads⟩
  | stop fatal =>
    obtain ⟨r, s', hr, hmoved, -⟩ := stop_moved hsteady s fatal
    rw [use, hr]
    exact ⟨_, rfl, hmoved.leads⟩

/-- Uses go on one after another. -/
theorem useAll_cons (hsteady : Steady ρ) (s : Kept φ ρ σ) (u : Use) (us : List Use) :
    (s.useAll (u :: us)).2 = ((s.use u).2.useAll us).2 := by
  obtain ⟨a, ha, -⟩ := use_leads hsteady s u
  rw [useAll]
  generalize s.use u = r at ha
  obtain ⟨r, t⟩ := r
  obtain rfl : r = .ok a := ha
  rfl

theorem useAll_leads (hsteady : Steady ρ) (s : Kept φ ρ σ) (us : List Use) :
    Leads s (s.useAll us).2 := by
  induction us generalizing s with
  | nil => exact .refl s
  | cons u us ih =>
    obtain ⟨a, -, hleads⟩ := use_leads hsteady s u
    rw [useAll_cons hsteady]
    exact hleads.trans (ih _)

theorem useAll_append (hsteady : Steady ρ) (s : Kept φ ρ σ) (us vs : List Use) :
    (s.useAll (us ++ vs)).2 = ((s.useAll us).2.useAll vs).2 := by
  induction us generalizing s with
  | nil => rfl
  | cons u us ih => rw [List.cons_append, useAll_cons hsteady, useAll_cons hsteady, ih]

end Session

namespace Shared

open Session (Leads Lives Owns)

/-- A shared session whose guest is recorded. -/
abbrev Kept (φ ρ σ : Type) := Shared (Recorded φ) (Recorded ρ) (Record σ)

/-- The hook is registered once, if that was tried and the process takes it. -/
def Hooked (s : Shared φ ρ σ) : Prop := s.hooks = if s.tried = true ∧ s.full = false then 1 else 0

theorem Hooked.le_one {s : Shared φ ρ σ} (h : s.Hooked) : s.hooks ≤ 1 := by
  rw [h]
  split <;> decide

theorem Hooked.pos_iff {s : Shared φ ρ σ} (h : s.Hooked) :
    0 < s.hooks ↔ s.tried = true ∧ s.full = false := by
  rw [h]
  split <;> simp_all

variable [Configurable φ] {s s' s'' : Kept φ ρ σ} {P Q : Prop}

/-- A process at its beginning, in a world in which a guest may be running already. -/
def beginning (full : Bool) (w : World σ) : Shared φ ρ σ := { full, world := w }

/-- The same process with its guests recorded. -/
def recording (full : Bool) (w : World σ) : Kept φ ρ σ := beginning full (w.recorded [])

theorem recording_alike (full : Bool) (w : World σ) :
    Alike Session.plain (recording full w : Kept φ ρ σ) (beginning full w) := ⟨rfl, rfl, rfl, rfl⟩

/-! ### Steps of a process -/

/-- What leads from one state of the process to another, `P` being whether the hook was asked for on
the way. -/
structure Steps (s s' : Kept φ ρ σ) (P : Prop) : Prop where
  leads : Leads s.current s'.current
  full : s'.full = s.full
  tried : s'.tried = true ↔ s.tried = true ∨ P
  owns : P → Owns s'.current.lifecycle
  hooked : s.Hooked → s'.Hooked

theorem Steps.refl (s : Kept φ ρ σ) : Steps s s False :=
  ⟨.refl _, rfl, by simp, False.elim, id⟩

theorem Steps.trans (h : Steps s s' P) (h' : Steps s' s'' Q) : Steps s s'' (P ∨ Q) where
  leads := h.leads.trans h'.leads
  full := h'.full.trans h.full
  tried := by rw [h'.tried, h.tried, or_assoc]
  owns := fun hpq => hpq.elim (fun hp => h'.leads.owns (h.owns hp)) h'.owns
  hooked := h'.hooked ∘ h.hooked

theorem Steps.congr (h : Steps s s' P) (hpq : P ↔ Q) : Steps s s' Q :=
  ⟨h.leads, h.full, h.tried.trans (or_congr_right hpq), h.owns ∘ hpq.mpr, h.hooked⟩

/-- Putting a session back is a step if the session was led there. -/
theorem steps_release {t : Session.Kept φ ρ σ} (h : Leads s.current t) (b : Bool) :
    Steps s { s.release t with poisoned := b } False :=
  ⟨h, rfl, by simp [release], False.elim, id⟩

theorem steps_holding (f : Session.Kept φ ρ σ → Except π α × Session.Kept φ ρ σ)
    (h : Leads s.current (f s.current).2) : Steps s (s.holding f).2 False := by
  obtain ⟨b, hb⟩ := holding_eq (s := s) f
  rw [hb]
  exact steps_release h b

theorem steps_withSession (f : Session.Kept φ ρ σ → α × Session.Kept φ ρ σ)
    (h : Leads s.current (f s.current).2) : Steps s (s.withSession f).2 False := by
  rw [withSession_eq]
  exact steps_release h _

theorem leads_note (s : Kept φ ρ σ) (n : Note) : Leads s.current (s.note n).current := by
  rw [current_note]
  exact .of_stays rfl rfl

/-- Asking for the hook does not touch the session. -/
theorem steps_register (h : Owns s.current.lifecycle) : Steps s s.register True := by
  rcases s.register_cases with ⟨ht, hr⟩ | ⟨ht, hfull, hr⟩ | ⟨ht, hfull, hr⟩
  · rw [hr]
    exact ⟨.refl _, rfl, by simp [ht], fun _ => h, id⟩
  · rw [hr]
    have hleads := leads_note { s with tried := true } .hookRefused
    refine ⟨hleads, rfl, by simp [note], fun _ => hleads.owns h, fun hh => ?_⟩
    simpa [Hooked, note, ht, hfull] using hh
  · rw [hr]
    refine ⟨.refl _, rfl, by simp, fun _ => h, fun hh => ?_⟩
    simpa [Hooked, ht, hfull] using hh

/-! ### The end of the process -/

section Exit

variable [Guest ρ σ]

theorem atExit_leads (hsteady : Steady ρ) (s : Kept φ ρ σ) (held : Bool) :
    Leads s.current (s.atExit held).current := by
  unfold atExit
  cases held with
  | true => exact leads_note s _
  | false =>
    simp only [Bool.false_eq_true, if_false]
    split
    · obtain ⟨r, t, hr, hmoved, -⟩ := Session.stop_moved hsteady s.current false
      have hsteps : Steps s (s.stop false).2 False := by
        refine steps_holding _ ?_
        rw [hr]
        exact hmoved.leads
      generalize s.stop false = r at hsteps
      obtain ⟨p | (f | ⟨⟩), t⟩ := r
      · exact hsteps.leads.trans (leads_note t _)
      · exact hsteps.leads.trans (leads_note t _)
      · exact hsteps.leads
    · exact .refl _

/-- The hook runs once if it is registered. -/
theorem exit_cases (h : s.Hooked) (held : Bool) :
    (s.hooks = 0 ∧ s.exit held = s) ∨ (0 < s.hooks ∧ s.exit held = s.atExit held) := by
  -- It runs as often as it is registered.
  unfold exit
  have hle := h.le_one
  generalize s.hooks = n at hle
  rcases n with _ | _ | n
  · exact .inl ⟨rfl, rfl⟩
  · exact .inr ⟨Nat.one_pos, rfl⟩
  · omega

theorem exit_leads (hsteady : Steady ρ) (h : s.Hooked) (held : Bool) :
    Leads s.current (s.exit held).current := by
  rcases exit_cases h held with ⟨-, he⟩ | ⟨-, he⟩
  · rw [he]
    exact .refl _
  · rw [he]
    exact atExit_leads hsteady s held

/-- Of a guest that is ended already the hook notes at most that it found the session in use. -/
theorem exit_of_ended (h : s.Hooked) (hs : s.current.lifecycle = .shutDown) (held : Bool) :
    (s.exit held).session = s.session ∧ (s.exit held).world.memory = s.world.memory ∧
      (held = false → s.exit held = s) := by
  have hstate : s.acquire.state ≠ .running := by
    rw [acquire_eq, Session.state, hs]
    nofun
  rcases exit_cases h held with ⟨-, he⟩ | ⟨-, he⟩
  · rw [he]
    exact ⟨rfl, rfl, fun _ => rfl⟩
  · rw [he]
    unfold atExit
    cases held with
    | true => exact ⟨rfl, rfl, nofun⟩
    | false =>
      rw [if_neg Bool.false_ne_true, if_neg hstate]
      exact ⟨rfl, rfl, fun _ => rfl⟩

end Exit

/-! ### Operations -/

section Run

variable [Guest ρ σ] [Source φ ρ σ]

/-- A start asks for the hook exactly if it answers with the handle of an owner. -/
theorem start_steps (hsteady : Steady ρ) (s : Kept φ ρ σ) :
    ∃ r s', s.start = (.ok r, s') ∧ Steps s s' (∃ h, r = .ok h ∧ h.ownership = .owned) := by
  obtain ⟨r, t, hr, hmoved, hrun⟩ := Session.start_moved hsteady s.current
  obtain ⟨b, hb⟩ := holding_eq (s := s) Session.start
  rw [hr] at hb
  have hsteps : Steps s { s.release t with poisoned := b } False := steps_release hmoved.leads b
  unfold start
  rw [hb]
  cases r with
  | error f => exact ⟨_, _, rfl, hsteps.congr (by simp)⟩
  | ok h =>
    obtain ⟨n, o⟩ := h
    obtain ⟨g, hg⟩ := hrun
    cases o with
    | adopted => exact ⟨_, _, rfl, hsteps.congr (by simp)⟩
    | owned =>
      have hregister := steps_register (s := { s.release t with poisoned := b }) (.inl ⟨g, n, hg⟩)
      exact ⟨_, _, rfl, (hsteps.trans hregister).congr (by simp)⟩

/-- The same of an operation: it asks for the hook exactly if it starts, or finds started, what is
owned here. -/
theorem perform_steps (hsteady : Steady ρ) (s : Kept φ ρ σ) (op : Op) :
    Steps s (s.perform op).2 (s.Starts op) := by
  obtain ⟨r, s', hstart, hsteps⟩ := start_steps hsteady s
  have hstarts : (∃ h, r = .ok h ∧ h.ownership = .owned) ↔
      ∃ h s', s.start = (.ok (.ok h), s') ∧ h.ownership = .owned := by
    simp [hstart]
  cases op with
  | configure settings =>
    show Steps s (s.configure settings).2 False
    unfold configure
    refine steps_withSession _ ?_
    split
    · rename_i hstate
      exact .of_stays (lifecycle_of_state hstate).symm rfl
    · exact .refl _
  | start =>
    show Steps s s.start.2 _
    rw [hstart]
    exact hsteps.congr hstarts
  | evaluate code env =>
    show Steps s (s.evaluate code env).2 _
    unfold evaluate
    rw [hstart]
    cases r with
    | error f => exact hsteps.congr hstarts
    | ok h =>
      obtain ⟨r, t, hr, hmoved⟩ := Session.evaluate_moved hsteady s'.current code env
      have hheld := steps_holding (s := s') (fun t => t.evaluate code env) (by
        rw [hr]
        exact hmoved.leads)
      exact (hsteps.trans hheld).congr ((or_iff_left id).trans hstarts)
  | stop fatal =>
    obtain ⟨r, t, hr, hmoved, -⟩ := Session.stop_moved hsteady s.current fatal
    refine steps_holding _ ?_
    rw [hr]
    exact hmoved.leads
  | state =>
    show Steps s s.state.2 False
    unfold state
    exact steps_withSession _ (.refl _)
  | visit uses panics =>
    refine steps_holding _ ?_
    have hleads := Session.useAll_leads hsteady s.current uses
    unfold visiting
    generalize s.current.useAll uses = r at hleads
    obtain ⟨p | as, t⟩ := r
    · exact hleads
    · exact hleads

/-- What operations in order do. -/
theorem run_steps (hsteady : Steady ρ) (s : Kept φ ρ σ) (ops : List Op) :
    Steps s (s.run ops).2
      (∃ before op after, ops = before ++ op :: after ∧ (s.run before).2.Starts op) := by
  induction ops generalizing s with
  | nil => exact (Steps.refl s).congr (by simp)
  | cons op ops ih =>
    refine ((perform_steps hsteady s op).trans (ih _)).congr ?_
    constructor
    · rintro (h | ⟨before, op', after, rfl, h⟩)
      · exact ⟨[], op, ops, rfl, h⟩
      · exact ⟨op :: before, op', after, rfl, h⟩
    · rintro ⟨before, op', after, heq, h⟩
      cases before with
      | nil =>
        obtain ⟨rfl, rfl⟩ := List.cons.inj heq
        exact .inl h
      | cons b before =>
        obtain ⟨rfl, rfl⟩ := List.cons.inj heq
        exact .inr ⟨before, op', after, rfl, h⟩

/-- After a stop that succeeds the guest is ended. -/
theorem lifecycle_of_stops (hsteady : Steady ρ) {op : Op} (h : s.Stops op) :
    (s.perform op).2.current.lifecycle = .shutDown := by
  cases op with
  | stop fatal =>
    obtain ⟨r, t, hr, -, hended⟩ := Session.stop_moved hsteady s.current fatal
    obtain ⟨b, hb⟩ := holding_eq (s := s) fun t => t.stop fatal
    rw [hr] at hb
    have hr : r = .ok () := by
      have h : (s.stop fatal).1 = .ok (.ok ()) := h
      rw [Shared.stop, hb] at h
      exact Except.ok.inj h
    show (s.stop fatal).2.current.lifecycle = .shutDown
    rw [Shared.stop, hb]
    exact hended hr
  | visit uses panics =>
    obtain ⟨before, fatal, after, rfl, hstop⟩ := h
    rw [acquire_eq] at hstop
    obtain ⟨r, t, hr, -, hended⟩ := Session.stop_moved hsteady (s.current.useAll before).2 fatal
    rw [hr] at hstop
    have huse : ((s.current.useAll before).2.use (.stop fatal)).2 = t := by rw [Session.use, hr]
    have hafter := (Session.useAll_leads hsteady t after).ended (hended (Except.ok.inj hstop))
    -- What is done after the stop finds the guest ended, and so leaves it.
    rw [← huse, ← Session.useAll_cons hsteady, ← Session.useAll_append hsteady] at hafter
    obtain ⟨b, hb⟩ := holding_eq (s := s) (visiting (before ++ .stop fatal :: after) panics)
    show (s.visit _ panics).2.current.lifecycle = .shutDown
    rw [visit, hb]
    show (visiting _ panics s.current).2.lifecycle = .shutDown
    unfold visiting
    generalize s.current.useAll _ = r at hafter
    obtain ⟨p | as, t⟩ := r
    · exact hafter
    · exact hafter
  | configure | start | evaluate | state => exact h.elim

/-! ### The whole -/

theorem run_append (s : Kept φ ρ σ) (ops ops' : List Op) :
    (s.run (ops ++ ops')).2 = ((s.run ops).2.run ops').2 := by
  induction ops generalizing s with
  | nil => rfl
  | cons op ops ih => exact ih _

/-- What is true of a process `p` that ends after these operations, `held` when it ends while
somebody uses the session; `s₀` is the same process with its guests recorded. -/
structure LivesOnce (p : Shared φ ρ σ) (s₀ : Kept φ ρ σ) (ops : List Op) (held : Bool) : Prop where
  /-- What is recorded is what happens. -/
  recorded : ∃ t, p.run ops = ((s₀.run ops).1, t) ∧
    Alike Session.plain ((s₀.run ops).2.exit held) (t.exit held)
  /-- The guest is started once at most, and ended once at most after that. -/
  once : Lives ((s₀.run ops).2.exit held).current.lifecycle ((s₀.run ops).2.exit held).current.life
  /-- A guest that was found running is neither started nor ended. -/
  adopted : ∀ before after, ops = before ++ after →
    ∀ g n, (s₀.run before).2.current.lifecycle = .running g ⟨n, .adopted⟩ →
      ((s₀.run ops).2.exit held).current.life = [.isInitialized]
  hooks_le : (s₀.run ops).2.hooks ≤ 1
  /-- The hook is registered by a start that answers with the handle of an owner. -/
  hooked : 0 < (s₀.run ops).2.hooks ↔
    s₀.full = false ∧ ∃ before op after, ops = before ++ op :: after ∧ (s₀.run before).2.Starts op
  /-- Where the hook is registered the guest is the session's own, or was. -/
  owned : 0 < (s₀.run ops).2.hooks → Owns (s₀.run ops).2.current.lifecycle
  /-- A stop that succeeds leaves the hook nothing to do. -/
  stopped : ∀ before op after, ops = before ++ op :: after → (s₀.run before).2.Stops op →
    ((s₀.run ops).2.exit held).session = (s₀.run ops).2.session ∧
      ((s₀.run ops).2.exit held).world.memory = (s₀.run ops).2.world.memory ∧
      (held = false → (s₀.run ops).2.exit held = (s₀.run ops).2)
  /-- A panic is not seen by what comes later. -/
  panicked : ∀ uses later, ∃ answers t t',
    ((s₀.run ops).2.visit uses false).2.run later = (answers, t) ∧
      ((s₀.run ops).2.visit uses true).2.run later = (answers, t') ∧
      Alike id (t.exit held) (t'.exit held)

/-- Whatever is done in a process, with whatever guest that does not panic. -/
theorem run_livesOnce (hsteady : Steady ρ) (full : Bool) (w : World σ) (ops : List Op)
    (held : Bool) : LivesOnce (beginning full w : Shared φ ρ σ) (recording full w) ops held := by
  -- Of the beginning the rest needs these four facts alone.
  have halike : Alike Session.plain (recording full w : Kept φ ρ σ) (beginning full w) :=
    recording_alike full w
  have hbefore : (recording full w : Kept φ ρ σ).Hooked := rfl
  have htried : (recording full w : Kept φ ρ σ).tried ≠ true := nofun
  have hunstarted : Lives (recording full w : Kept φ ρ σ).current.lifecycle
      (recording full w : Kept φ ρ σ).current.life := .unstarted
  generalize (recording full w : Kept φ ρ σ) = s₀ at halike hbefore htried hunstarted
  have hsteps := run_steps hsteady s₀ ops
  have hhooked := hsteps.hooked hbefore
  have hexit := exit_leads hsteady hhooked held
  have hlives := (hsteps.leads.trans hexit).lives hunstarted
  have hasked : 0 < (s₀.run ops).2.hooks ↔ s₀.full = false ∧
      ∃ before op after, ops = before ++ op :: after ∧ (s₀.run before).2.Starts op := by
    rw [hhooked.pos_iff, hsteps.tried, hsteps.full, or_iff_right htried, and_comm]
  refine ⟨?_, hlives, ?_, hhooked.le_one, hasked, fun h => hsteps.owns (hasked.mp h).2, ?_, ?_⟩
  · obtain ⟨answers, t, t', hr, hr', ht⟩ := halike.run Session.faithful_plain ops
    rw [hr, hr']
    exact ⟨t', rfl, ht.exit Session.faithful_plain held⟩
  · rintro before after rfl g n hadopted
    have hlater := run_steps hsteady (s₀.run before).2 after
    rw [← run_append] at hlater
    rw [(hlater.leads.trans hexit).adopted g n hadopted, hadopted] at hlives
    exact Session.lives_adopted hlives
  · rintro before op after rfl hstops
    refine exit_of_ended hhooked ?_ held
    rw [run_append]
    exact (run_steps hsteady _ after).leads.ended (lifecycle_of_stops hsteady hstops)
  · intro uses later
    obtain ⟨answers, t, t', hr, hr', ht⟩ :=
      (visit_alike (s₀.run ops).2 uses).run Session.faithful_id later
    exact ⟨answers, t, t', hr, hr', ht.exit Session.faithful_id held⟩

end Run

/-- A directory with one installation, which the environment names. -/
def installed : World Library.Disk where
  memory := { directory := fun name => if name = "R" then some (.installation []) else none }
  host := { output := { shared := .buffer [] }, home := some (.ofString "R"), query := .missing }

abbrev KeptLibrary := Kept Library.Locator Library.Loaded Library.Disk

theorem steady_loaded : Steady Library.Loaded := fun _ _ _ => ⟨_, rfl⟩

/-- A visitor starts the guest and panics; the start after that registers the hook. -/
theorem run_livesOnce_visited :
    Steady Library.Loaded ∧ ((recording false installed : KeptLibrary).run
      [.visit [.start] true, .start]).2.hooks = 1 := by
  have h : LivesOnce (beginning false installed : SharedLibrary) _ _ false :=
    run_livesOnce steady_loaded false installed [.visit [.start] true, .start] false
  have hstart : ((recording false installed : KeptLibrary).run
      [.visit [.start] true]).2.Starts .start := ⟨_, _, rfl, rfl⟩
  have hhooked := h.hooked.mpr ⟨rfl, [.visit [.start] true], .start, [], rfl, hstart⟩
  exact ⟨steady_loaded, Nat.le_antisymm h.hooks_le hhooked⟩

end Shared
end GuestRuntime
