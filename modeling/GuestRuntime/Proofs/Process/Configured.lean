import GuestRuntime.Proofs.Library.Protocol
import GuestRuntime.Proofs.Library.Total
import GuestRuntime.Proofs.Process.Life

/-!
The settings that a process starts its shared session with. Settings are accepted until a start has
succeeded, and every start, whoever asks for it, is made with those that were accepted last:

        first use      configure S      start       configure T    start        configure U
        environment's ────▶ S ────────▶ S, fails ──────▶ T ──────▶ T, runs ──────▶ refused

What was not accepted is of no consequence, and neither is a start that fails. Meanwhile others may
change the environment and the libraries between one operation and the next. Main statement:
`configured_of_history`.
-/

namespace GuestRuntime.Library

open Dialogue Scripted Session
open Shared (Op Answer beginning)

/-- A session that is asked to start, as it is before and after. -/
structure Attempt where
  before : LibrarySession
  after : LibrarySession

def Attempt.Succeeds (a : Attempt) : Prop := ∃ h, a.before.start.1 = .ok (.ok h)

/-- Whether a use of a session starts it, if it does not run. -/
def starts : Use → Bool
  | .stop _ => false
  | _ => true

/-- The attempts to start that one use makes. -/
def attemptOf (t : LibrarySession) (u : Use) : List Attempt :=
  if starts u then [⟨t, (t.use u).2⟩] else []

/-- The attempts that uses make, one use after another. -/
def attemptsOf (t : LibrarySession) : List Use → List Attempt
  | [] => []
  | u :: us => attemptOf t u ++ attemptsOf (t.use u).2 us

/-- An operation of a process, and the process before and after it. -/
structure Moment where
  before : SharedLibrary
  op : Op
  answer : Answer
  after : SharedLibrary

namespace Moment

/-- The attempts to start that are made. -/
def attempts (m : Moment) : List Attempt :=
  match m.op with
  | .start | .evaluate _ _ => [⟨m.before.current, m.after.current⟩]
  | .visit uses _ => attemptsOf m.before.current uses
  | _ => []

/-- The settings that are accepted. -/
def accepted? (m : Moment) : Option Settings :=
  match m.op, m.answer with
  | .configure settings, .configured (.ok ()) => some settings
  | _, _ => none

end Moment

/-- An operation on a process. -/
def momentOf (s : SharedLibrary) (op : Op) : Moment :=
  ⟨s, op, (s.perform op).1, (s.perform op).2⟩

/-- What a process has been through: operations, and changes that others make to the environment and
to the libraries. -/
inductive History (full : Bool) (w : World Disk) : SharedLibrary → List Moment → Prop
  | beginning : History full w (beginning full w) []
  | operation {s ms} (op : Op) (h : History full w s ms) :
    History full w (s.perform op).2 (ms ++ [momentOf s op])
  | outside {s ms} (change : World Disk → World Disk) (h : History full w s ms) :
    History full w { s with world := change s.world } ms

/-- The attempts that have been made. -/
def attempted (ms : List Moment) : List Attempt := ms.flatMap Moment.attempts

/-- The settings that were accepted last, or those of the environment at the first use. -/
def inForce (ms : List Moment) : Settings :=
  ((ms.filterMap Moment.accepted?).getLast?).getD
    (.ofEnvironment (ms.head?.bind fun m => m.before.world.host.home))

/-- The session is started with these settings: its guest is that of the home they name, or that the
installation gives if they name none, and an owner hands it their arguments. -/
structure StartsWith (settings : Settings) (t : LibrarySession) : Prop where
  source : t.source = ⟨settings⟩
  lifecycle : t.lifecycle = .uninitialized
  started : ∃ home g h, OpensIn t home g ∧ (∀ p, settings.home = some p → home = p) ∧
    t.start.1 = .ok (.ok h) ∧ t.start.2.lifecycle = .running g h ∧
    t.start.2.world.host.home = some home ∧
    (h.ownership = .owned → Receives (starting (settings.arguments.map Utf8.encode))
      (t.world.memory.image g.name) (t.start.2.world.memory.image g.name))

/-- What is true of an operation, given what has been before. -/
structure Configured (earlier : List Moment) (m : Moment) : Prop where
  accepts (settings : Settings) (hop : m.op = .configure settings)
    (hnone : ∀ a ∈ attempted earlier, ¬ a.Succeeds) : m.answer = .configured (.ok ())
  refuses (settings : Settings) (hop : m.op = .configure settings)
    (hsome : ∃ a ∈ attempted earlier, a.Succeeds) :
    m.answer = .configured (.error (.violation .reconfigure)) ∧ m.after.current = m.before.current
  /-- Every attempt to start is made with the settings in force. -/
  settings (a : Attempt) (ha : a ∈ m.attempts) : a.before.source = ⟨inForce (earlier ++ [m])⟩
  first (as : List Attempt) (a : Attempt) (bs : List Attempt) (hm : m.attempts = as ++ a :: bs)
    (hnone : ∀ b ∈ attempted earlier ++ as, ¬ b.Succeeds) (ha : a.Succeeds) :
    StartsWith (inForce (earlier ++ [m])) a.before
  succeeded (a : Attempt) (ha : a ∈ m.attempts) (h : Handle)
    (hstart : a.before.start.1 = .ok (.ok h)) : ∃ g, a.after.lifecycle = .running g h
  failed (a : Attempt) (ha : a ∈ m.attempts) (hfails : ¬ a.Succeeds) :
    a.after.source = a.before.source ∧ a.after.lifecycle = a.before.lifecycle

/-! ### One attempt to start -/

variable {t t' t'' : LibrarySession}

theorem source_openGuest (l : Locator) (w : World Disk) : (Locator.openGuest l w).2.1 = l := by
  unfold Locator.openGuest
  split
  · rfl
  · dsimp only
    split
    · rfl
    · split <;> rfl

/-- What an attempt to start does to a session. -/
structure Attempt.Regular (a : Attempt) : Prop where
  source : a.after.source = a.before.source
  succeeds : ∀ h, a.before.start.1 = .ok (.ok h) → ∃ g, a.after.lifecycle = .running g h
  fails : ¬ a.Succeeds → a.after.lifecycle = a.before.lifecycle

theorem source_start (t : LibrarySession) : t.start.2.source = t.source := by
  have hsource {g? : Except Fault Loaded} {source w}
      (hopen : Source.openGuest t.source t.world = (g?, source, w)) : source = t.source := by
    have h := source_openGuest t.source t.world
    rwa [show Locator.openGuest t.source t.world = (g?, source, w) from hopen] at h
  have hcases := t.start_starting
  generalize t.start.1 = r, t.start.2 = t' at hcases
  cases hcases with
  | running | shutDown | misconfigured => rfl
  | notOpened hl harguments hopen => exact hsource hopen
  | panicked hl harguments hopen => exact hsource hopen
  | entered hl harguments hopen => exact hsource hopen

/-- A start that does not succeed is refused with a fault. -/
theorem start_of_not_succeeds (h : ¬ Attempt.Succeeds ⟨t, t'⟩) :
    ∃ f : Fault, t.start.1 = (Except.ok f : Except Panic Fault).map .error := by
  obtain ⟨r, s', hstart⟩ := start_answers t
  cases r with
  | error f => exact ⟨f, by rw [hstart]; rfl⟩
  | ok hd => exact absurd ⟨hd, by rw [hstart]⟩ h

theorem regular_start (t : LibrarySession) : Attempt.Regular ⟨t, t.start.2⟩ where
  source := source_start t
  succeeds _ hs := lifecycle_of_started hs
  fails hfails := by
    obtain ⟨f, hs⟩ := start_of_not_succeeds hfails
    exact (lifecycle_of_refused hs).1

theorem regular_evaluate (t : LibrarySession) (code : String) (env : Option Obj) :
    Attempt.Regular ⟨t, (t.evaluate code env).2⟩ := by
  obtain ⟨hsource, hsucceeds, hfails⟩ := regular_start t
  rcases t.evaluate_cases code env with ⟨h, hs, heval⟩ | ⟨r, hs, heval⟩
  · obtain ⟨g, hl⟩ := lifecycle_of_started hs
    obtain ⟨r, w, hrun⟩ := evaluate_of_running_answers hl code env
    rw [heval, hrun]
    exact ⟨hsource, hsucceeds, hfails⟩
  · rw [heval]
    exact ⟨hsource, hsucceeds, hfails⟩

/-- After an attempt the session has not been started exactly if it had not been before and the
attempt has failed. -/
theorem Attempt.Regular.stage {a : Attempt} (h : a.Regular) :
    a.after.state = .uninitialized ↔ a.before.state = .uninitialized ∧ ¬ a.Succeeds := by
  by_cases ha : a.Succeeds
  · obtain ⟨hd, hs⟩ := id ha
    obtain ⟨g, hl⟩ := h.succeeds hd hs
    simp [state, hl, Lifecycle.state, ha]
  · simp [state, h.fails ha, ha]

/-- What an attempt that succeeds starts. -/
theorem startsWith_of_succeeds {settings : Settings} (hsource : t.source = ⟨settings⟩)
    (hl : t.lifecycle = .uninitialized) (hs : Attempt.Succeeds ⟨t, t'⟩) :
    StartsWith settings t := by
  obtain ⟨hd, hs⟩ : ∃ h, t.start.1 = .ok (.ok h) := hs
  have hsettings : t.source.settings = settings := congrArg Locator.settings hsource
  rcases obstacle_or_opens t.source.settings t.world.host.query t.world.memory with
    ⟨f, hf⟩ | ⟨home, g, hopens⟩
  · obtain ⟨t₁, hstart, -⟩ := start_of_obstacle hl hf
    simp [hstart] at hs
  · obtain ⟨w, hmemory, hhome, hstart⟩ := start_of_opens hl hopens
    obtain ⟨o, w', hrun, hcourse⟩ := course_bringUp hopens hmemory
    obtain ⟨t₁, heq, -, hl₁, hm₁, hh₁⟩ := hstart o w' hrun
    have htold : w'.host.home = some home := by
      have hkept := run_home g (bringUp (t.source.settings.arguments.map Utf8.encode)) w
      rwa [hrun, hhome] at hkept
    refine ⟨hsource, hl, home, g, ⟨w'.host.nextSerial, o⟩, hopens, ?_, by rw [heq],
      by rw [heq, hl₁], by rw [heq, hh₁, htold], ?_⟩
    · rintro p hp
      obtain ⟨note, hresolved⟩ := hopens.isHome.resolved
      rw [Home.resolve, hsettings, hp] at hresolved
      cases hresolved
      rfl
    · rintro rfl
      rw [heq, ← hsettings]
      cases hcourse t₁ ⟨_, hl₁⟩ hm₁ with
      | waiting huntouched =>
        rw [huntouched.lifecycle, hl] at hl₁
        cases hl₁
      | entered _ _ hin =>
        obtain rfl := hin.guest_eq hl₁
        rw [hl₁] at hin
        cases hin with
        | owned _ _ hreceived => simpa using hreceived

/-! ### Uses of the session while it is held -/

theorem source_stop (t : LibrarySession) (fatal : Bool) : (t.stop fatal).2.source = t.source := by
  unfold stop
  split
  · rfl
  · rfl
  · rfl
  · next g n _ =>
    obtain ⟨⟨⟩, w, hrun⟩ := converse_answers t g (tearDown fatal)
    rw [hrun]
    rfl

theorem stage_stop (t : LibrarySession) (fatal : Bool) :
    (t.stop fatal).2.state = .uninitialized ↔ t.state = .uninitialized := by
  unfold stop
  split
  · rfl
  · rfl
  · rfl
  · next g n hl =>
    obtain ⟨⟨⟩, w, hrun⟩ := converse_answers t g (tearDown fatal)
    rw [hrun]
    simp [Session.state, hl, Lifecycle.state, Session.note]

theorem regular_use {u : Use} (hu : starts u = true) (t : LibrarySession) :
    Attempt.Regular ⟨t, (t.use u).2⟩ := by
  cases u with
  | start => exact regular_start t
  | evaluate code env => exact regular_evaluate t code env
  | stop fatal => cases hu

theorem source_use (t : LibrarySession) (u : Use) : (t.use u).2.source = t.source := by
  cases u with
  | start => exact (regular_start t).source
  | evaluate code env => exact (regular_evaluate t code env).source
  | stop fatal => exact source_stop t fatal

theorem stage_use (t : LibrarySession) (u : Use) :
    (t.use u).2.state = .uninitialized ↔
      t.state = .uninitialized ∧ ∀ a ∈ attemptOf t u, ¬ a.Succeeds := by
  cases u with
  | start => simpa [attemptOf, starts] using (regular_use (u := .start) rfl t).stage
  | evaluate code env =>
    simpa [attemptOf, starts] using (regular_use (u := .evaluate code env) rfl t).stage
  | stop fatal => exact (stage_stop t fatal).trans (by simp [attemptOf, starts])

theorem source_useAll (t : LibrarySession) (us : List Use) :
    (t.useAll us).2.source = t.source := by
  induction us generalizing t with
  | nil => rfl
  | cons u us ih => rw [useAll_cons_snd, ih, source_use]

theorem stage_useAll (t : LibrarySession) (us : List Use) :
    (t.useAll us).2.state = .uninitialized ↔
      t.state = .uninitialized ∧ ∀ a ∈ attemptsOf t us, ¬ a.Succeeds := by
  induction us generalizing t with
  | nil => simp [attemptsOf, useAll]
  | cons u us ih =>
    rw [useAll_cons_snd, ih, stage_use, attemptsOf, and_assoc]
    simp only [List.mem_append, or_imp, forall_and]

/-- Every attempt is made with the settings of the session, and is one of its operations. -/
theorem regular_attemptsOf (t : LibrarySession) (us : List Use) :
    ∀ a ∈ attemptsOf t us, a.Regular ∧ a.before.source = t.source := by
  induction us generalizing t with
  | nil => simp [attemptsOf]
  | cons u us ih =>
    intro a ha
    rcases List.mem_append.mp ha with ha | ha
    · rw [attemptOf] at ha
      split at ha
      · next hu =>
        obtain rfl := List.mem_singleton.mp ha
        exact ⟨regular_use hu t, rfl⟩
      · cases ha
    · obtain ⟨hregular, hsource⟩ := ih (t.use u).2 a ha
      exact ⟨hregular, hsource.trans (source_use t u)⟩

/-- Up to the first attempt that succeeds the session has not been started. -/
theorem stage_of_attemptsOf {us : List Use} {as bs : List Attempt} {a : Attempt}
    (hl : t.state = .uninitialized) (hus : attemptsOf t us = as ++ a :: bs)
    (hnone : ∀ b ∈ as, ¬ b.Succeeds) : a.before.state = .uninitialized := by
  induction us generalizing t as with
  | nil => simp [attemptsOf] at hus
  | cons u us ih =>
    have hnext := (stage_use t u).mpr
    rw [attemptsOf] at hus
    generalize hu : attemptOf t u = made at hus hnext
    rw [attemptOf] at hu
    split at hu
    · subst hu
      cases as with
      | nil =>
        obtain ⟨rfl, -⟩ := List.cons.inj hus
        exact hl
      | cons b as =>
        obtain ⟨rfl, hrest⟩ := List.cons.inj hus
        have hb : ∀ a ∈ [(⟨t, (t.use u).2⟩ : Attempt)], ¬ a.Succeeds := fun a ha =>
          hnone a (List.mem_cons.mpr (.inl (List.mem_singleton.mp ha)))
        exact ih (hnext ⟨hl, hb⟩) hrest fun c hc => hnone c (List.mem_cons_of_mem _ hc)
    · subst hu
      exact ih (hnext ⟨hl, by simp⟩) hus hnone

/-! ### One operation of the process -/

variable {s : SharedLibrary}

theorem Attempt.Regular.remarked {a : Attempt} (h : a.Regular) (ht : a.after.Remarked t) :
    Attempt.Regular ⟨a.before, t⟩ where
  source := ht.source_eq.trans h.source
  succeeds hd hs := by
    obtain ⟨g, hl⟩ := h.succeeds hd hs
    exact ⟨g, ht.lifecycle_eq.trans hl⟩
  fails ha := ht.lifecycle_eq.trans (h.fails ha)

/-- A start or an evaluation through the process is an attempt to start its session. -/
theorem regular_shared_start (s : SharedLibrary) :
    Attempt.Regular ⟨s.current, s.start.2.current⟩ :=
  (regular_start s.current).remarked s.start_current.2

theorem regular_shared_evaluate (s : SharedLibrary) (code : String) (env : Option Obj) :
    Attempt.Regular ⟨s.current, (s.evaluate code env).2.current⟩ := by
  rcases s.evaluate_current code env with ⟨h, t, hs, ht, -, hcurrent⟩ | ⟨r, hs, -, hcurrent⟩
  · obtain ⟨g, hl⟩ := lifecycle_of_started hs
    have htl : t.lifecycle = .running g h := ht.lifecycle_eq.trans hl
    obtain ⟨r, w, hrun⟩ := evaluate_of_running_answers htl code env
    obtain ⟨hsource, hsucceeds, hfails⟩ := (regular_start s.current).remarked ht
    rw [hcurrent, hrun]
    exact ⟨hsource, hsucceeds, hfails⟩
  · exact (regular_start s.current).remarked hcurrent

/-- What an operation other than a configuration does to the session of the process. -/
structure Moment.Regular (m : Moment) : Prop where
  source : m.after.current.source = m.before.current.source
  stage : m.after.current.state = .uninitialized ↔
    m.before.current.state = .uninitialized ∧ ∀ a ∈ m.attempts, ¬ a.Succeeds
  attempts : ∀ a ∈ m.attempts, a.Regular ∧ a.before.source = m.before.current.source
  first : ∀ as a bs, m.attempts = as ++ a :: bs → m.before.current.state = .uninitialized →
    (∀ b ∈ as, ¬ b.Succeeds) → a.before.state = .uninitialized

theorem current_visit (s : SharedLibrary) (uses : List Use) (panics : Bool) :
    (s.visit uses panics).2.current = (s.current.useAll uses).2 := by
  obtain ⟨b, hb⟩ := Shared.holding_eq (s := s) (Shared.visiting uses panics)
  rw [Shared.visit, hb]
  show (Shared.visiting uses panics s.current).2 = _
  unfold Shared.visiting
  split <;> simp_all

/-- An operation that makes one attempt and does nothing else. -/
theorem Moment.Regular.of_attempt {m : Moment}
    (hm : m.attempts = [⟨m.before.current, m.after.current⟩])
    (h : Attempt.Regular ⟨m.before.current, m.after.current⟩) : m.Regular where
  source := h.source
  stage := by
    rw [hm]
    simpa using h.stage
  attempts a ha := by
    rw [hm, List.mem_singleton] at ha
    subst ha
    exact ⟨h, rfl⟩
  first as a bs hsplit hl hnone := by
    rw [hm] at hsplit
    cases as with
    | nil =>
      obtain ⟨rfl, -⟩ := List.cons.inj hsplit
      exact hl
    | cons b as => simp at hsplit

/-- An operation that makes none. -/
theorem Moment.Regular.of_none {m : Moment} (hm : m.attempts = [])
    (hsource : m.after.current.source = m.before.current.source)
    (hstage : m.after.current.state = .uninitialized ↔ m.before.current.state = .uninitialized) :
    m.Regular where
  source := hsource
  stage := by simpa [hm] using hstage
  attempts := by simp [hm]
  first as a bs hsplit := by simp [hm] at hsplit

theorem regular_momentOf (s : SharedLibrary) {op : Op}
    (hop : ∀ settings, op ≠ .configure settings) : (momentOf s op).Regular := by
  cases op with
  | configure settings => exact absurd rfl (hop settings)
  | start => exact .of_attempt rfl (regular_shared_start s)
  | evaluate code env => exact .of_attempt rfl (regular_shared_evaluate s code env)
  | stop fatal =>
    have hcurrent : (s.stop fatal).2.current = (s.current.stop fatal).2 := by
      obtain ⟨b, hb⟩ := Shared.holding_eq (s := s) fun t => t.stop fatal
      rw [Shared.stop, hb]
      rfl
    refine .of_none rfl ?_ ?_
    · exact (congrArg Session.source hcurrent).trans (source_stop s.current fatal)
    · show (s.stop fatal).2.current.state = _ ↔ _
      rw [hcurrent]
      exact stage_stop s.current fatal
  | state =>
    have hcurrent : s.state.2.current = s.current := by
      rw [Shared.state, Shared.withSession_eq]
      rfl
    refine .of_none rfl (congrArg Session.source hcurrent) ?_
    show s.state.2.current.state = _ ↔ _
    rw [hcurrent]
    rfl
  | visit uses panics =>
    have hcurrent := current_visit s uses panics
    refine ⟨?_, ?_, regular_attemptsOf s.current uses, fun as a bs hsplit hl hnone =>
      stage_of_attemptsOf hl hsplit hnone⟩
    · exact (congrArg Session.source hcurrent).trans (source_useAll s.current uses)
    · show (s.visit uses panics).2.current.state = _ ↔ _
      rw [hcurrent]
      exact stage_useAll s.current uses

/-- A configuration is accepted by a session that has not been started, and changes no other. -/
theorem perform_configure (s : SharedLibrary) (settings : Settings) :
    if s.current.state = .uninitialized then
      (s.perform (.configure settings)).1 = .configured (.ok ()) ∧
        (s.perform (.configure settings)).2.current =
          ⟨⟨settings⟩, .uninitialized, s.current.world⟩
    else
      (s.perform (.configure settings)).1 = .configured (.error (.violation .reconfigure)) ∧
        (s.perform (.configure settings)).2.current = s.current := by
  simp only [Shared.perform, Shared.configure, Shared.withSession_eq]
  cases hl : s.current.state with
  | uninitialized => exact ⟨rfl, rfl⟩
  | running | shutDown => exact ⟨rfl, rfl⟩

/-! ### Whole histories -/

variable {full : Bool} {w : World Disk} {ms : List Moment} {m : Moment} {op : Op}

theorem attempted_concat (ms : List Moment) (m : Moment) :
    attempted (ms ++ [m]) = attempted ms ++ m.attempts := by
  simp [attempted]

theorem inForce_of_accepted {settings : Settings} (hm : m.accepted? = some settings) :
    inForce (ms ++ [m]) = settings := by
  simp [inForce, hm]

theorem inForce_of_none (hms : ms ≠ []) (hm : m.accepted? = none) :
    inForce (ms ++ [m]) = inForce ms := by
  obtain ⟨m₀, ms, rfl⟩ := List.exists_cons_of_ne_nil hms
  simp [inForce, hm]

theorem accepted?_momentOf (s : SharedLibrary) (hop : ∀ settings, op ≠ .configure settings) :
    (momentOf s op).accepted? = none := by
  cases op with
  | configure settings => exact absurd rfl (hop settings)
  | start | evaluate | stop | state | visit => rfl

/-- What the history of a process says about its session. -/
structure Inv (ms : List Moment) (s : SharedLibrary) : Prop where
  unused : ms = [] → s.session = none
  used : ms ≠ [] → s.session ≠ none ∧ s.current.source = ⟨inForce ms⟩
  stage : s.current.state = .uninitialized ↔ ∀ a ∈ attempted ms, ¬ a.Succeeds

/-- Whoever takes the session now finds it with the settings in force. -/
theorem Inv.source (h : Inv ms s) (hm : (momentOf s op).accepted? = none) :
    s.current.source = ⟨inForce (ms ++ [momentOf s op])⟩ := by
  cases ms with
  | nil =>
    have hnone : s.session = none := h.unused rfl
    have hinForce : inForce [momentOf s op] = .ofEnvironment s.world.host.home := by
      simp only [inForce, List.filterMap_cons, hm]
      rfl
    rw [List.nil_append, hinForce, Shared.current, hnone]
    rfl
  | cons m₀ ms =>
    rw [inForce_of_none (List.cons_ne_nil m₀ ms) hm]
    exact (h.used (List.cons_ne_nil m₀ ms)).2

theorem Inv.operation (h : Inv ms s) (op : Op) :
    Inv (ms ++ [momentOf s op]) (s.perform op).2 := by
  have hthere : (s.perform op).2.session ≠ none := s.session_perform op
  by_cases hop : ∃ settings, op = .configure settings
  · obtain ⟨settings, rfl⟩ := hop
    have hconfigure := perform_configure s settings
    have hattempted : attempted (ms ++ [momentOf s (.configure settings)]) = attempted ms :=
      (attempted_concat ms _).trans (List.append_nil _)
    by_cases hl : s.current.state = .uninitialized
    · rw [if_pos hl] at hconfigure
      obtain ⟨hanswer, hcurrent⟩ := hconfigure
      have hm : (momentOf s (.configure settings)).accepted? = some settings := by
        simp [momentOf, Moment.accepted?, hanswer]
      refine ⟨by simp, fun _ => ⟨hthere, ?_⟩, ?_⟩
      · rw [inForce_of_accepted hm, hcurrent]
      · rw [hattempted, ← h.stage, hcurrent]
        exact ⟨fun _ => hl, fun _ => rfl⟩
    · rw [if_neg hl] at hconfigure
      obtain ⟨hanswer, hcurrent⟩ := hconfigure
      have hm : (momentOf s (.configure settings)).accepted? = none := by
        simp [momentOf, Moment.accepted?, hanswer]
      refine ⟨by simp, fun _ => ⟨hthere, ?_⟩, ?_⟩
      · rw [hcurrent]
        exact h.source hm
      · rw [hattempted, hcurrent]
        exact h.stage
  · replace hop := not_exists.mp hop
    have hregular := regular_momentOf s hop
    have hsource := hregular.source.trans (h.source (accepted?_momentOf s hop))
    refine ⟨by simp, fun _ => ⟨hthere, hsource⟩, ?_⟩
    rw [attempted_concat, show (s.perform op).2 = (momentOf s op).after from rfl, hregular.stage,
      show (momentOf s op).before = s from rfl, h.stage]
    simp only [List.mem_append, or_imp, forall_and]

/-- What others change, the session does not see until it starts. -/
theorem Inv.outside (h : Inv ms s) (change : World Disk → World Disk) :
    Inv ms { s with world := change s.world } := by
  obtain ⟨session, poisoned, tried, hooks, full, world⟩ := s
  cases session with
  | none => exact ⟨fun _ => rfl, fun hms => absurd rfl (h.used hms).1, h.stage⟩
  | some part => exact ⟨h.unused, h.used, h.stage⟩

theorem History.inv (h : History full w s ms) : Inv ms s := by
  induction h with
  | beginning => exact ⟨fun _ => rfl, fun h => absurd rfl h, by simp [attempted]; rfl⟩
  | operation op _ ih => exact ih.operation op
  | outside change _ ih => exact ih.outside change

/-- Whatever a process has been through, and whatever is done next. -/
theorem configured_of_history (h : History full w s ms) (op : Op) :
    Configured ms (momentOf s op) := by
  have hinv := h.inv
  by_cases hop : ∃ settings, op = .configure settings
  · obtain ⟨settings, rfl⟩ := hop
    have hconfigure := perform_configure s settings
    have hno : (momentOf s (.configure settings)).attempts = [] := rfl
    refine ⟨?_, ?_, by simp [hno], ?_, by simp [hno], by simp [hno]⟩
    · rintro _ - hnone
      rw [if_pos (hinv.stage.mpr hnone)] at hconfigure
      exact hconfigure.1
    · rintro _ - ⟨a, ha, hsucceeds⟩
      rw [if_neg fun hstate => hinv.stage.mp hstate a ha hsucceeds] at hconfigure
      exact hconfigure
    · intro as a bs hm
      simp [hno] at hm
  · replace hop := not_exists.mp hop
    have hsource := hinv.source (accepted?_momentOf s hop)
    have hregular := regular_momentOf s hop
    refine ⟨fun settings h => absurd h (hop settings), fun settings h => absurd h (hop settings),
      fun a ha => (hregular.attempts a ha).2.trans hsource, ?_,
      fun a ha => (hregular.attempts a ha).1.succeeds, ?_⟩
    · intro as a bs hm hnone ha
      obtain ⟨hthose, hthese⟩ := List.forall_mem_append.mp hnone
      have hstate := hregular.first as a bs hm (hinv.stage.mpr hthose) hthese
      have hmem : a ∈ (momentOf s op).attempts := by simp [hm]
      exact startsWith_of_succeeds ((hregular.attempts a hmem).2.trans hsource)
        (Shared.lifecycle_of_state hstate) ha
    · intro a ha hfails
      have hattempt := (hregular.attempts a ha).1
      exact ⟨hattempt.source, hattempt.fails hfails⟩

/-- Settings whose home is no installation, and settings whose home is one. -/
def astray : Settings := { home := some (.ofString "S") }

def athome : Settings := { home := some (.ofString "R"), flags := ["--vanilla"] }

/-- A start fails, and the one after the next configuration finds the guest. -/
theorem configured_of_history_mended :
    ∃ s ms, History false Shared.installed s ms ∧
      ms.map Moment.op = [.configure astray, .start, .configure athome] ∧
      StartsWith athome s.current := by
  have hbeginning : History false Shared.installed _ _ := .beginning
  have hhistory := ((hbeginning.operation (.configure astray)).operation .start).operation
    (.configure athome)
  have hfails := hhistory.inv.stage.mp rfl
  have h := configured_of_history hhistory .start
  exact ⟨_, _, hhistory, rfl, h.first [] _ [] rfl (by rwa [List.append_nil]) ⟨_, rfl⟩⟩

end GuestRuntime.Library
