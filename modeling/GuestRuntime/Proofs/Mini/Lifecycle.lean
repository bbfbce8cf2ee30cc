import GuestRuntime.Proofs.Mini.Runs

/-!
The life of a session with the mini guest, over whole runs. The guest keeps a record of what was
done to it; at every moment that record, the stage of the session, the handle it has and what its
operations have answered belong together in one of three ways, and every operation leads from one
of them to the same or the next. Main statement: `run_orderly`.
-/

namespace GuestRuntime.Mini

open Dialogue TheGuest Machine

/-- What was done to a guest, from its opening to its end. -/
structure Record where
  opens : Nat := 0
  boots : Nat := 0
  wirings : Nat := 0
  mainLoops : Nat := 0
  startup : List StartStep := []
  teardown : List EndStep := []
  ended : Option Bool := none

def Machine.record (m : Machine) : Record :=
  ⟨m.opens, m.boots, m.wirings, m.mainLoops, m.startup, m.teardown, m.ended⟩

/-- The record with one more opening. -/
def Record.opened (d : Record) : Record := { d with opens := d.opens + 1 }

/-- The record with one more start. -/
def Record.booted (d : Record) : Record :=
  { d with
    boots := d.boots + 1
    wirings := d.wirings + 1
    mainLoops := d.mainLoops + 1
    startup := d.startup ++ [.boot, .disableStackCheck, .installCallbacks, .setUpMainLoop] }

/-- The record with one more end. -/
def Record.tornDown (d : Record) (fatal : Bool) : Record :=
  { d with teardown := d.teardown ++ endSteps, ended := some fatal }

theorem record_opened (m : Machine) : m.opened.record = m.record.opened := rfl

theorem record_booted (m : Machine) (arguments : List Bytes) :
    (m.booted arguments).record = m.record.booted := rfl

theorem record_tornDown (m : Machine) (fatal : Bool) :
    (m.tornDown fatal).record = m.record.tornDown fatal := rfl

/-- The record after the one start: a guest that was adopted was only opened. -/
def Record.ofStart : Ownership → Record
  | .adopted => { opens := 1 }
  | .owned =>
    { opens := 1
      boots := 1
      wirings := 1
      mainLoops := 1
      startup := [.boot, .disableStackCheck, .installCallbacks, .setUpMainLoop] }

/-- The record after the one stop. -/
def Record.ofStop (fatal : Bool) : Record :=
  { Record.ofStart .owned with
    teardown := [.runLast, .runFinalizers, .killDevices, .cleanTempDir, .collect, .finish]
    ended := some fatal }

/-- Who owns a guest that was running already or not. -/
def ownershipOf (running : Bool) : Ownership := if running then .adopted else .owned

/-- What one operation does to the life of a session: nothing, a start or a stop. -/
inductive Moved (s : MiniSession) (a : Except Panic Answer) (s' : MiniSession) : Prop
  | stays (hl : s'.lifecycle = s.lifecycle)
      (hm : s'.world.memory.record = s.world.memory.record)
      (hi : s'.world.memory.initialized = s.world.memory.initialized)
      (ha : ∀ h, handle? a = some h → s.handle? = some h) (ht : stop? a = none)
  | starts {h} (hs : s.lifecycle = .uninitialized) (hs' : s'.lifecycle = .running it h)
      (ho : h.ownership = ownershipOf s.world.memory.initialized)
      (hm : s.world.memory.record = {} → s'.world.memory.record = .ofStart h.ownership)
      (ha : ∀ h', handle? a = some h' → h' = h) (ht : stop? a = none)
  | stops {g n fatal} (hs : s.lifecycle = .running g ⟨n, .owned⟩) (hs' : s'.lifecycle = .shutDown)
      (hm : s.world.memory.record = .ofStart .owned → s'.world.memory.record = .ofStop fatal)
      (ha : handle? a = none) (ht : stop? a = some fatal)

variable {s s₁ s' : MiniSession} {a : Except Panic Answer}

theorem Machine.Held.record_eq {m m' : Machine} {k n : Nat} (h : m.Held k n m') :
    m'.record = m.record := by
  rw [h.rest]
  rfl

theorem Machine.Held.initialized_eq {m m' : Machine} {k n : Nat} (h : m.Held k n m') :
    m'.initialized = m.initialized := by rw [h.rest]

/-- A start, and whatever else leaves the life of the session it gives alone. -/
theorem Started.moved {r : Except Fault Handle} (h : Started s r s₁)
    (hl : s'.lifecycle = s₁.lifecycle) (hm : s'.world.memory.record = s₁.world.memory.record)
    (hi : s'.world.memory.initialized = s₁.world.memory.initialized)
    (ha : ∀ h, handle? a = some h → r = .ok h) (ht : stop? a = none) : Moved s a s' := by
  cases h with
  | running hs =>
    refine .stays hl hm hi (fun h hh => ?_) ht
    cases ha h hh
    simp [Session.handle?, hs]
  | shutDown hs | misconfigured hs | notOpened hs =>
    exact .stays hl hm hi (fun h hh => absurd (ha h hh) (by simp)) ht
  | adopted hs hinit =>
    refine .starts hs hl (by simp [ownershipOf, hinit]) (fun hrec => ?_)
      (fun h hh => (Except.ok.inj (ha h hh)).symm) ht
    rw [hm, record_opened, hrec]
    rfl
  | owned hs hinit =>
    refine .starts hs hl (by simp [ownershipOf, hinit]) (fun hrec => ?_)
      (fun h hh => (Except.ok.inj (ha h hh)).symm) ht
    rw [hm, record_booted, record_opened, hrec]
    rfl

/-- A stop of a session whose guest has not been ended. -/
theorem Stopped.moved {fatal : Bool} {r : Except Fault Unit} (h : Stopped s fatal r s') :
    Moved s (.ok (.stopped fatal r)) s' := by
  cases h with
  | beforeStart hs | foreign hs => exact .stays rfl rfl rfl (by simp [handle?]) rfl
  | twice hs => exact .stays rfl rfl rfl (by simp [handle?]) rfl
  | ended hs =>
    refine .stops hs rfl (fun hrec => ?_) rfl rfl
    rw [record_tornDown, hrec]
    rfl

/-- Every operation does one of these things, and answers, unless it is an evaluation that asks for
too much memory. -/
theorem perform_moved (op : Op) (hend : s.state = .running → s.world.memory.ended = none) :
    Moved s (perform s op).1 (perform s op).2 ∧ ∀ p, (perform s op).1 = .error p →
      p = .capacityOverflow ∧ ∃ code env, op = .evaluate code env := by
  cases op with
  | start =>
    obtain ⟨r, s₁, hstart, hst⟩ := start_started s
    rw [perform, hstart]
    refine ⟨hst.moved rfl rfl rfl (fun h hh => ?_) rfl, nofun⟩
    cases r with
    | error f => cases hh
    | ok h' => exact congrArg _ (Option.some.inj hh)
  | evaluate code env =>
    rcases evaluate_cases s code env with
      ⟨f, s₁, hst, heval, -⟩ | ⟨hd, s₁, g, hst, hrun, heval, -⟩
    · rw [perform, heval]
      exact ⟨hst.moved rfl rfl rfl (by simp [handle?, Except.map]) rfl, nofun⟩
    · obtain ⟨w, heval₁, hw⟩ := evaluate_running hrun code env
      rw [perform, heval, heval₁]
      generalize hout : checked s₁.world code env _ = out
      refine ⟨hst.moved rfl hw.held.record_eq hw.held.initialized_eq (fun h hh => ?_) ?_,
        fun p hp => ?_⟩
      · cases out <;> cases hh
      · cases out <;> rfl
      · cases out with
        | ok r => cases hp
        | error q =>
          cases hp
          exact ⟨(answered_eq_error.mp (checked_eq_error.mp hout)).1, code, env, rfl⟩
  | stop fatal =>
    obtain ⟨r, s', hstop, hst⟩ := stop_stopped fatal hend
    rw [perform, hstop]
    exact ⟨hst.moved, nofun⟩
  | leak => exact ⟨.stays rfl rfl rfl (by simp [perform, handle?]) rfl, nofun⟩
  | messages mode => exact ⟨.stays rfl rfl rfl (by simp [perform, handle?]) rfl, nofun⟩

/-- The handles that starts have answered are all this one. -/
def Run.Handles (r : Run) (h : Handle) : Prop := ∀ h' ∈ r.handles, h' = h

/-- The three ways in which the stage, the record and the answers belong together, for a guest that
was running before the session or not. -/
inductive Lived (running : Bool) (r : Run) : Prop
  | unstarted (hs : r.session.lifecycle = .uninitialized)
      (hm : r.session.world.memory.record = {})
      (hi : r.session.world.memory.initialized = running) (hh : r.handles = [])
      (ht : r.stops = [])
  | started {g h} (hs : r.session.lifecycle = .running g h)
      (hm : r.session.world.memory.record = .ofStart h.ownership)
      (ho : h.ownership = ownershipOf running) (hh : r.Handles h) (ht : r.stops = [])
  | ended {fatal h} (hs : r.session.lifecycle = .shutDown)
      (hm : r.session.world.memory.record = .ofStop fatal) (hr : running = false)
      (ho : h.ownership = ownershipOf running) (hh : r.Handles h) (ht : r.stops = [fatal])

/-- A guest that runs has not been ended. -/
theorem Lived.not_ended {running : Bool} {r : Run} (h : Lived running r)
    (hs : r.session.state = .running) : r.session.world.memory.ended = none := by
  cases h with
  | unstarted _ hm => exact congrArg Record.ended hm
  | @started g h _ hm =>
    refine (congrArg Record.ended hm).trans ?_
    cases h.ownership <;> rfl
  | ended hl => simp [Session.state, hl, Lifecycle.state] at hs

/-- What an operation answers besides: a handle that was known, or none. -/
theorem Run.Handles.step {r : Run} {h : Handle} {op : Op} (hh : r.Handles h)
    (ha : ∀ h', handle? (perform r.session op).1 = some h' → h' = h) : (r.step op).Handles h := by
  intro h' hmem
  rcases r.mem_handles_step op |>.mp hmem with hold | hnew
  · exact hh h' hold
  · exact ha h' hnew

theorem Lived.stays {running : Bool} {r : Run} {op : Op} (h : Lived running r)
    (hl : (r.step op).session.lifecycle = r.session.lifecycle)
    (hm : (r.step op).session.world.memory.record = r.session.world.memory.record)
    (hi : (r.step op).session.world.memory.initialized = r.session.world.memory.initialized)
    (ha : ∀ h, handle? (perform r.session op).1 = some h → r.session.handle? = some h)
    (ht : stop? (perform r.session op).1 = none) : Lived running (r.step op) := by
  have hstops : (r.step op).stops = r.stops := by
    rw [r.stops_step, ht]
    exact List.append_nil _
  cases h with
  | unstarted hs hrec hinit hh hst =>
    refine .unstarted (hl.trans hs) (hm.trans hrec) (hi.trans hinit) ?_ (hstops.trans hst)
    refine List.eq_nil_iff_forall_not_mem.mpr fun h hmem => ?_
    rcases r.mem_handles_step op |>.mp hmem with hold | hnew
    · simp [hh] at hold
    · have := ha h hnew
      simp [Session.handle?, hs] at this
  | @started g h hs hrec ho hh hst =>
    refine .started (hl.trans hs) (hm.trans hrec) ho (Run.Handles.step hh fun h' hnew => ?_)
      (hstops.trans hst)
    have := ha h' hnew
    simp only [Session.handle?, hs, Option.some.injEq] at this
    exact this.symm
  | ended hs hrec hr ho hh hst =>
    refine .ended (hl.trans hs) (hm.trans hrec) hr ho (Run.Handles.step hh fun h' hnew => ?_)
      (hstops.trans hst)
    have := ha h' hnew
    simp [Session.handle?, hs] at this

/-- Every step keeps the three ways. -/
theorem Lived.step {running : Bool} {r : Run} (h : Lived running r) (op : Op) :
    Lived running (r.step op) := by
  obtain ⟨hmoved, -⟩ := perform_moved op h.not_ended
  cases hmoved with
  | stays hl hm hi hah ht => exact h.stays hl hm hi hah ht
  | @starts hd hs hs' ho hm hah ht =>
    cases h with
    | unstarted _ hrec hinit hh hst =>
      refine .started hs' (hm hrec) (ho.trans (congrArg ownershipOf hinit))
        (Run.Handles.step (by simp [Run.Handles, hh]) hah) ?_
      rw [r.stops_step, ht, hst]
      rfl
    | started hs₁ | ended hs₁ => simp [hs] at hs₁
  | @stops g n fatal hs hs' hm hah ht =>
    cases h with
    | unstarted hs₁ | ended hs₁ => simp [hs] at hs₁
    | @started g' h' hs₁ hrec ho hh hst =>
      obtain ⟨rfl, rfl⟩ : g = g' ∧ ⟨n, .owned⟩ = h' := by simpa using hs.symm.trans hs₁
      refine .ended hs' (hm hrec) ?_ ho (Run.Handles.step hh fun h' hnew => ?_) ?_
      · cases running with
        | false => rfl
        | true => cases ho
      · rw [hah] at hnew
        cases hnew
      · rw [r.stops_step, ht, hst]
        rfl

theorem lived_newSession (p : Provider) (running : Bool) (host : Host) :
    Lived running ⟨[], newSession p running host⟩ :=
  .unstarted rfl rfl rfl rfl rfl

theorem run_lived (p : Provider) (running : Bool) (host : Host) (ops : List Op) :
    Lived running (run (newSession p running host) ops) :=
  run_induction (lived_newSession p running host) (fun _ op h => h.step op) ops

/-- A session goes forwards only, one stage at a time. -/
def Advances (a b : State) : Prop :=
  b = a ∨ (a = .uninitialized ∧ b = .running) ∨ (a = .running ∧ b = .shutDown)

theorem Moved.advances (h : Moved s a s') : Advances s.state s'.state := by
  cases h with
  | stays hl => exact .inl (congrArg Lifecycle.state hl)
  | starts hs hs' => exact .inr (.inl ⟨congrArg Lifecycle.state hs, congrArg Lifecycle.state hs'⟩)
  | stops hs hs' => exact .inr (.inr ⟨congrArg Lifecycle.state hs, congrArg Lifecycle.state hs'⟩)

/-- What is true of a session at every moment, given what its operations have answered so far. -/
structure Orderly (running : Bool) (r : Run) : Prop where
  /-- Everything answers but an evaluation that asks for too much memory. -/
  answers : ∀ op p, (perform r.session op).1 = .error p →
    p = .capacityOverflow ∧ ∃ code env, op = .evaluate code env
  advances : ∀ op, Advances r.session.state (r.step op).session.state
  unstarted : r.session.state = .uninitialized →
    r.session.world.memory.record = {} ∧ r.handles = [] ∧ r.stops = []
  /-- One opening, and all steps of a start or none. -/
  started : r.session.state ≠ .uninitialized → r.session.world.memory.record =
    { Record.ofStart (ownershipOf running) with
      teardown := r.session.world.memory.teardown
      ended := r.session.world.memory.ended }
  not_stopped : r.stops = [] → r.session.state ≠ .shutDown ∧
    r.session.world.memory.teardown = [] ∧ r.session.world.memory.ended = none
  /-- A stop that succeeded is the only one, and what it did stays. -/
  stopped : ∀ fatal ∈ r.stops, r.stops = [fatal] ∧ r.session.state = .shutDown ∧
    r.session.world.memory.teardown =
      [.runLast, .runFinalizers, .killDevices, .cleanTempDir, .collect, .finish] ∧
    r.session.world.memory.ended = some fatal
  adopted : ownershipOf running = .adopted → r.session.state ≠ .shutDown
  handle_isSome : r.session.handle?.isSome ↔ r.session.state = .running
  start_eq : ∀ h, r.session.handle? = some h → r.session.start = (.ok (.ok h), r.session)
  /-- There is one handle, whenever it is answered. -/
  handles_eq : ∃ h, h.ownership = ownershipOf running ∧ (∀ h' ∈ r.handles, h' = h) ∧
    ∀ h', r.session.handle? = some h' → h' = h

theorem handle?_isSome_iff (s : MiniSession) : s.handle?.isSome ↔ s.state = .running := by
  obtain ⟨source, lifecycle, w⟩ := s
  cases lifecycle <;> simp [Session.handle?, Session.state, Lifecycle.state]

theorem start_of_handle? {h : Handle} (hs : s.handle? = some h) : s.start = (.ok (.ok h), s) := by
  obtain ⟨source, lifecycle, w⟩ := s
  cases lifecycle with
  | running g h' =>
    cases hs
    rfl
  | uninitialized | shutDown => cases hs

/-- A record keeps its own steps of ending. -/
theorem record_eq_with {m : Machine} {d : Record} (h : m.record = d) :
    m.record = { d with teardown := m.teardown, ended := m.ended } := h ▸ rfl

theorem ofStart_teardown (o : Ownership) : (Record.ofStart o).teardown = [] := by
  cases o <;> rfl

theorem ofStart_ended (o : Ownership) : (Record.ofStart o).ended = none := by
  cases o <;> rfl

theorem Lived.orderly {running : Bool} {r : Run} (h : Lived running r) : Orderly running r where
  answers op := (perform_moved op h.not_ended).2
  advances op := (perform_moved op h.not_ended).1.advances
  handle_isSome := handle?_isSome_iff r.session
  start_eq _ := start_of_handle?
  unstarted hs := by
    cases h with
    | unstarted _ hm _ hh ht => exact ⟨hm, hh, ht⟩
    | started hl | ended hl => cases (congrArg Lifecycle.state hl).symm.trans hs
  started hs := by
    cases h with
    | unstarted hl => exact absurd (congrArg Lifecycle.state hl) hs
    | started _ hm ho => exact record_eq_with (ho ▸ hm)
    | ended _ hm hr =>
      subst hr
      exact (record_eq_with hm).trans rfl
  not_stopped hs := by
    cases h with
    | unstarted hl hm =>
      refine ⟨fun hd => ?_, congrArg Record.teardown hm, congrArg Record.ended hm⟩
      cases (congrArg Lifecycle.state hl).symm.trans hd
    | started hl hm =>
      refine ⟨fun hd => ?_, (congrArg Record.teardown hm).trans (ofStart_teardown _),
        (congrArg Record.ended hm).trans (ofStart_ended _)⟩
      cases (congrArg Lifecycle.state hl).symm.trans hd
    | ended _ _ _ _ _ ht => cases ht.symm.trans hs
  stopped fatal hf := by
    cases h with
    | unstarted _ _ _ _ ht | started _ _ _ _ ht => simp [ht] at hf
    | ended hl hm _ _ _ ht =>
      obtain rfl := List.mem_singleton.mp (ht ▸ hf)
      exact ⟨ht, congrArg Lifecycle.state hl, congrArg Record.teardown hm,
        congrArg Record.ended hm⟩
  adopted ho hd := by
    cases h with
    | unstarted hl | started hl => cases (congrArg Lifecycle.state hl).symm.trans hd
    | ended _ _ hr =>
      subst hr
      cases ho
  handles_eq := by
    cases h with
    | unstarted hl _ _ hh =>
      refine ⟨⟨0, ownershipOf running⟩, rfl, by simp [hh], fun h' hs => ?_⟩
      simp [Session.handle?, hl] at hs
    | @started g h hl _ ho hh =>
      refine ⟨h, ho, hh, fun h' hs => ?_⟩
      simp only [Session.handle?, hl, Option.some.injEq] at hs
      exact hs.symm
    | @ended _ h hl _ _ ho hh =>
      refine ⟨h, ho, hh, fun h' hs => ?_⟩
      simp [Session.handle?, hl] at hs

/-- Whatever the settings, whether the guest was running before, however often opening it fails and
whatever is done in which order, the session is orderly. -/
theorem run_orderly (p : Provider) (running : Bool) (host : Host) (ops : List Op) :
    Orderly running (run (newSession p running host) ops) :=
  (run_lived p running host ops).orderly

/-- A second stop does not end the guest again. -/
theorem run_orderly_stop :
    (run (newSession { failures := 1 } false bareHost)
      [.start, .start, .stop true, .stop false]).session.world.memory.ended = some true :=
  ((run_orderly _ _ _ _).stopped true (by decide +kernel)).2.2.2

end GuestRuntime.Mini
