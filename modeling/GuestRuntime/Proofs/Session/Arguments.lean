import GuestRuntime.Proofs.Library.Protocol
import GuestRuntime.Proofs.Mini.Lifecycle
import GuestRuntime.Proofs.Session.Starting
import Mathlib.Data.List.DropRight

/-!
The arguments of a guest, from the steps that build settings to the guest that is started:

        … reset ─ program "a" ─ flag "x" ─ program "b" ─ flag "y" ──▶ "b", default flags, "x", "y"

An owner starts its guest once and hands it these, unchanged. If one of them cannot be sent, nothing
is opened: every start and every evaluation is refused and leaves the session as it was. Main
statement: `arguments_arrive`.
-/

namespace GuestRuntime

namespace Settings

/-- Whether a step takes all steps before it back. -/
def Step.isReset : Step → Bool
  | .reset | .fromEnvironment => true
  | _ => false

def Step.program? : Step → Option String
  | .program n => some n
  | _ => none

def Step.flag? : Step → Option String
  | .flag f => some f
  | _ => none

/-- The steps that no later one takes back. -/
def sinceReset (steps : List Step) : List Step := steps.rtakeWhile fun s => !s.isReset

/-- The program name after some steps: the last one named, or the default one. -/
def programOf (steps : List Step) : String :=
  ((sinceReset steps).filterMap Step.program?).getLast?.getD ({} : Settings).program

/-- The flags after some steps: the default ones, then those added. -/
def flagsOf (steps : List Step) : List String :=
  ({} : Settings).flags ++ (sinceReset steps).filterMap Step.flag?

theorem sinceReset_concat (steps : List Step) (s : Step) :
    sinceReset (steps ++ [s]) = if s.isReset then [] else sinceReset steps ++ [s] := by
  rw [sinceReset, List.rtakeWhile_concat]
  cases s.isReset <;> rfl

/-- A step that takes nothing back names a program or leaves the one that was named. -/
theorem programOf_concat {s : Step} (hs : s.isReset = false) (steps : List Step) :
    programOf (steps ++ [s]) = s.program?.getD (programOf steps) := by
  rw [programOf, sinceReset_concat, hs, if_neg Bool.false_ne_true, List.filterMap_append]
  cases hp : s.program? with
  | none => simp [hp, programOf]
  | some n => simp [hp]

/-- It adds a flag or none. -/
theorem flagsOf_concat {s : Step} (hs : s.isReset = false) (steps : List Step) :
    flagsOf (steps ++ [s]) = flagsOf steps ++ s.flag?.toList := by
  rw [flagsOf, sinceReset_concat, hs, if_neg Bool.false_ne_true, List.filterMap_append]
  cases hf : s.flag? with
  | none => simp [hf, flagsOf]
  | some f => simp [hf, flagsOf]

/-- However settings are built, these are their program name and their flags. -/
theorem build_eq (environment : Option Path) (steps : List Step) :
    (build environment steps).program = programOf steps ∧
      (build environment steps).flags = flagsOf steps := by
  induction steps using List.reverseRecOn with
  | nil => exact ⟨rfl, rfl⟩
  | append_singleton steps s ih =>
    obtain ⟨hprogram, hflags⟩ := ih
    have hbuild : build environment (steps ++ [s]) =
        apply environment (build environment steps) s := List.foldl_concat ..
    rw [hbuild]
    cases s with
    | home p | program n | flag f =>
      rw [programOf_concat rfl, flagsOf_concat rfl, ← hprogram, ← hflags]
      simp [apply, withHome, withProgram, withFlag, Step.program?, Step.flag?]
    | reset | fromEnvironment =>
      rw [programOf, flagsOf, sinceReset_concat]
      exact ⟨rfl, rfl⟩

/-- The arguments after some steps. -/
def argumentsOf (steps : List Step) : List String := programOf steps :: flagsOf steps

theorem arguments_build (environment : Option Path) (steps : List Step) :
    (build environment steps).arguments = argumentsOf steps := by
  obtain ⟨hprogram, hflags⟩ := build_eq environment steps
  rw [arguments, hprogram, hflags, argumentsOf]

/-- What was asked for before a reset is gone. -/
example : argumentsOf [.program "a", .flag "-x", .reset, .program "b", .flag "-y"] =
    ["b", "--quiet", "--vanilla", "--no-save", "--gui=none", "-y"] := by
  decide

end Settings

/-! ### Arguments that cannot be sent -/

namespace Session

variable {φ ρ σ : Type} [Guest ρ σ] [Source φ ρ σ] {s : Session φ ρ σ} {i : Nat}

/-- What is said of an argument that holds a zero there. -/
def unsendable (i : Nat) : Fault := .misconfigured (.zeroInArgument i)

/-- Every start and every evaluation is refused for an argument, and leaves the session, its source
and its world as they are. -/
structure Refuses (s : Session φ ρ σ) (i : Nat) : Prop where
  state : s.state = .uninitialized
  start : s.start = (.ok (.error (unsendable i)), s)
  evaluate (code : String) (env : Option Obj) :
    s.evaluate code env = (.ok (.error (unsendable i)), s)

theorem refuses_of_arguments (hl : s.lifecycle = .uninitialized)
    (harguments : Terminated.ofTexts (Source.settings s.source).arguments = .error i) :
    s.Refuses i := by
  have hstart : s.start = (.ok (.error (unsendable i)), s) := by
    rw [Session.start, hl]
    simp only [harguments]
    rfl
  exact ⟨by rw [state, hl]; rfl, hstart, fun code env => by rw [Session.evaluate, hstart]⟩

/-- What a session that refuses answers. -/
def refusal (i : Nat) : Use → Used
  | .start => .started (.error (unsendable i))
  | .evaluate _ _ => .evaluated (.error (unsendable i))
  | .stop _ => .stopped (.error (.violation .stopBeforeStart))

theorem Refuses.use (h : s.Refuses i) (u : Use) : s.use u = (.ok (refusal i u), s) := by
  cases u with
  | start =>
    rw [Session.use, h.start]
    rfl
  | evaluate code env =>
    rw [Session.use, h.evaluate]
    rfl
  | stop fatal =>
    rw [Session.use, Session.stop, Shared.lifecycle_of_state h.state]
    rfl

/-- Nothing changes it. -/
theorem Refuses.useAll (h : s.Refuses i) (uses : List Use) :
    s.useAll uses = (.ok (uses.map (refusal i)), s) := by
  induction uses with
  | nil => rfl
  | cons u uses ih =>
    rw [Session.useAll, h.use]
    simp only [ih]
    rfl

end Session

/-! ### Arguments that arrive -/

namespace Mini

open TheGuest Machine

/-- What the guest of a session has been started with: nothing until its owner starts it, and
nothing if somebody else has. -/
inductive Handed (arguments : List String) (s : MiniSession) : Prop
  | waiting (hl : s.lifecycle = .uninitialized) (hboots : s.world.memory.boots = 0)
      (harguments : s.world.memory.arguments = [])
  | adopted {g n} (hl : s.lifecycle = .running g ⟨n, .adopted⟩) (hboots : s.world.memory.boots = 0)
      (harguments : s.world.memory.arguments = [])
  | owned (hl : (∃ g n, s.lifecycle = .running g ⟨n, .owned⟩) ∨ s.lifecycle = .shutDown)
      (hboots : s.world.memory.boots = 1) (harguments : s.world.memory.arguments = arguments)

variable {arguments : List String} {s s' : MiniSession}

/-- Whatever leaves the session's stage and what its guest was started with alone. -/
theorem Handed.of_eq (h : Handed arguments s) (hl : s'.lifecycle = s.lifecycle)
    (hboots : s'.world.memory.boots = s.world.memory.boots)
    (harguments : s'.world.memory.arguments = s.world.memory.arguments) :
    Handed arguments s' := by
  cases h with
  | waiting hl' hb ha => exact .waiting (hl.trans hl') (hboots.trans hb) (harguments.trans ha)
  | adopted hl' hb ha => exact .adopted (hl.trans hl') (hboots.trans hb) (harguments.trans ha)
  | owned hl' hb ha => exact .owned (by rwa [hl]) (hboots.trans hb) (harguments.trans ha)

theorem openGuest_error {p p' : Provider} {w w' : World Machine} {f : Fault}
    (h : Source.openGuest p w = (.error f, p', w')) : p'.settings = p.settings ∧ w' = w := by
  obtain ⟨settings, failures⟩ := p
  cases failures with
  | zero => cases h
  | succ n =>
    cases h
    exact ⟨rfl, rfl⟩

theorem openGuest_ok {p p' : Provider} {w w' : World Machine} {g : TheGuest}
    (h : Source.openGuest p w = (.ok g, p', w')) :
    p'.settings = p.settings ∧ w' = ⟨w.memory.opened, w.host⟩ := by
  obtain ⟨settings, failures⟩ := p
  cases failures with
  | zero =>
    cases h
    exact ⟨rfl, rfl⟩
  | succ n => cases h

/-- Arguments that can be sent are the guest's own when it has been started. -/
theorem arguments_booted {m : Machine} (hsend : ∀ t ∈ arguments, Terminated.IsSendable t)
    {bs : List Bytes} (hbs : Terminated.ofTexts arguments = .ok bs) :
    (m.booted bs).arguments = arguments := by
  rw [Terminated.ofTexts_of_sendable hsend] at hbs
  cases hbs
  have hread : Utf8.decodeLossy ∘ Utf8.encode = id := funext Utf8.decodeLossy_encode
  rw [booted, List.map_map, hread, List.map_id]

theorem Handed.of_uninitialized (h : Handed arguments s) (hl : s.lifecycle = .uninitialized) :
    s.world.memory.boots = 0 ∧ s.world.memory.arguments = [] := by
  cases h with
  | waiting _ hboots harguments => exact ⟨hboots, harguments⟩
  | adopted hl' => simp [hl] at hl'
  | owned hl' => simp [hl] at hl'

theorem handed_start (hsend : ∀ t ∈ arguments, Terminated.IsSendable t)
    (hsettings : s.source.settings.arguments = arguments) (h : Handed arguments s) :
    Handed arguments s.start.2 ∧ s.start.2.source.settings = s.source.settings := by
  have hcases := s.start_starting
  generalize s.start.1 = r, s.start.2 = s' at hcases ⊢
  cases hcases with
  | running | shutDown | misconfigured => exact ⟨h, rfl⟩
  | notOpened hl hbs hopen =>
    obtain ⟨hsource, rfl⟩ := openGuest_error hopen
    exact ⟨h.of_eq rfl rfl rfl, hsource⟩
  | @panicked bs g p w e w' hl hbs hopen hrun =>
    obtain ⟨hsource, rfl⟩ := openGuest_ok hopen
    -- No guest of this kind panics when it is brought up.
    cases hm : s.world.memory.opened.initialized with
    | true =>
      rw [run_bringUp_adopted bs hm] at hrun
      cases hrun
    | false =>
      rw [run_bringUp_owned bs hm] at hrun
      cases hrun
  | @entered bs g p w o w' hl hbs hopen hrun =>
    obtain ⟨hsource, rfl⟩ := openGuest_ok hopen
    obtain ⟨hboots, hnone⟩ := h.of_uninitialized hl
    refine ⟨?_, hsource⟩
    cases hm : s.world.memory.opened.initialized with
    | true =>
      rw [run_bringUp_adopted bs hm] at hrun
      cases hrun
      exact .adopted rfl hboots hnone
    | false =>
      rw [run_bringUp_owned bs hm] at hrun
      cases hrun
      have hbooted : (s.world.memory.opened.booted bs).boots = 1 := congrArg (· + 1) hboots
      exact .owned (.inl ⟨it, _, rfl⟩) hbooted
        (arguments_booted hsend (hsettings ▸ hbs))

theorem handed_evaluate (hsend : ∀ t ∈ arguments, Terminated.IsSendable t)
    (hsettings : s.source.settings.arguments = arguments) (h : Handed arguments s) (code : String)
    (env : Option Obj) : Handed arguments (s.evaluate code env).2 ∧
      (s.evaluate code env).2.source.settings = s.source.settings := by
  obtain ⟨hstart, hsource⟩ := handed_start hsend hsettings h
  rcases s.evaluate_cases code env with ⟨hd, hs, heval⟩ | ⟨r, -, heval⟩
  · obtain ⟨g, hl⟩ := Session.lifecycle_of_started hs
    obtain ⟨w, hrun, hw⟩ := evaluate_running hl code env
    rw [heval, hrun]
    refine ⟨hstart.of_eq rfl ?_ ?_, hsource⟩
    · show w.memory.boots = _
      rw [hw.held.rest]
    · show w.memory.arguments = _
      rw [hw.held.rest]
  · rw [heval]
    exact ⟨hstart, hsource⟩

theorem handed_stop (h : Handed arguments s) (fatal : Bool)
    (hend : s.state = .running → s.world.memory.ended = none) :
    Handed arguments (s.stop fatal).2 ∧ (s.stop fatal).2.source = s.source := by
  obtain ⟨r, s', hstop, hst⟩ := stop_stopped fatal hend
  rw [hstop]
  cases hst with
  | beforeStart | foreign => exact ⟨h, rfl⟩
  | twice => exact ⟨h.of_eq rfl rfl rfl, rfl⟩
  | ended hs =>
    cases h with
    | waiting hl => simp [hs] at hl
    | adopted hl => simp [hs] at hl
    | owned _ hboots harguments => exact ⟨.owned (.inr rfl) hboots harguments, rfl⟩

theorem handed_perform (hsend : ∀ t ∈ arguments, Terminated.IsSendable t)
    (hsettings : s.source.settings.arguments = arguments) (h : Handed arguments s) (op : Op)
    (hend : s.state = .running → s.world.memory.ended = none) :
    Handed arguments (perform s op).2 ∧
      (perform s op).2.source.settings = s.source.settings := by
  cases op with
  | start => exact handed_start hsend hsettings h
  | evaluate code env => exact handed_evaluate hsend hsettings h code env
  | stop fatal =>
    obtain ⟨hhanded, hsource⟩ := handed_stop h fatal hend
    exact ⟨hhanded, congrArg Provider.settings hsource⟩
  | leak | messages mode => exact ⟨h.of_eq rfl rfl rfl, rfl⟩

/-- At every moment of every run the guest has been started with the arguments or with nothing. -/
theorem run_handed (hsend : ∀ t ∈ arguments, Terminated.IsSendable t) {p : Provider}
    (hsettings : p.settings.arguments = arguments) (running : Bool) (host : Host)
    (ops : List Op) : Handed arguments (run (newSession p running host) ops).session := by
  refine (run_induction (P := fun r => Lived running r ∧ Handed arguments r.session ∧
    r.session.source.settings.arguments = arguments)
    ⟨lived_newSession p running host, .waiting rfl rfl rfl, hsettings⟩ ?_ ops).2.1
  rintro r op ⟨hlived, hhanded, hr⟩
  obtain ⟨hnext, hsource⟩ := handed_perform hsend hr hhanded op hlived.not_ended
  exact ⟨hlived.step op, hnext, (congrArg Settings.arguments hsource).trans hr⟩

/-- A session that refuses only has its guest switched. -/
theorem run_of_zero {p : Provider} {i : Nat}
    (harguments : Terminated.ofTexts p.settings.arguments = .error i) (running : Bool)
    (host : Host) (ops : List Op) :
    ∃ leaky mode, (run (newSession p running host) ops).session =
      switch (newSession p running host) fun m => { m with leaky, mode } := by
  refine run_induction (P := fun r => ∃ leaky mode, r.session =
    switch (newSession p running host) fun m => { m with leaky, mode })
    ⟨false, .last, rfl⟩ ?_ ops
  rintro ⟨answers, s⟩ op ⟨leaky, mode, rfl⟩
  have hrefuses : (switch (newSession p running host) fun m => { m with leaky, mode }).Refuses i :=
    Session.refuses_of_arguments rfl harguments
  cases op with
  | start => exact ⟨leaky, mode, congrArg Prod.snd hrefuses.start⟩
  | evaluate code env => exact ⟨leaky, mode, congrArg Prod.snd (hrefuses.evaluate code env)⟩
  | stop fatal => exact ⟨leaky, mode, rfl⟩
  | leak => exact ⟨true, mode, rfl⟩
  | messages mode' => exact ⟨leaky, mode', rfl⟩

end Mini

namespace Library

open Scripted

/-- What the libraries have received since `s`, by which one of them has been opened: no library is
started but by its owner, with the arguments and before all else. -/
inductive Handed (arguments : List String) (s s' : LibrarySession) : Prop
  | waiting (hl : s'.lifecycle = .uninitialized) (hmemory : s'.world.memory = s.world.memory)
  | adopted {g n calls} (hl : s'.lifecycle = .running g ⟨n, .adopted⟩)
      (hcalls : Receives calls (s.world.memory.image g.name) (s'.world.memory.image g.name))
      (hboot : ∀ n bs, .boot n bs ∉ calls)
      (hothers : ∀ other, other ≠ g.name →
        s'.world.memory.image other = s.world.memory.image other)
  | owned {g calls}
      (hl : (∃ n, s'.lifecycle = .running g ⟨n, .owned⟩) ∨ s'.lifecycle = .shutDown)
      (hcalls : Receives
        (.boot (shortened (arguments.map Utf8.encode).length) (arguments.map Utf8.encode) :: calls)
        (s.world.memory.image g.name) (s'.world.memory.image g.name))
      (hboot : ∀ n bs, .boot n bs ∉ calls)
      (hothers : ∀ other, other ≠ g.name →
        s'.world.memory.image other = s.world.memory.image other)

variable {s s' : LibrarySession} {parts : List (List Received)}

theorem boot_notMem_of_isWork {calls : List Received} (h : ∀ r ∈ calls, r.isWork = true)
    (n : Int) (bs : List Bytes) : .boot n bs ∉ calls := fun hmem => by
  cases h _ hmem

theorem InCourse.handed (hl : s.lifecycle = .uninitialized) (h : InCourse s parts s') :
    Handed s.source.settings.arguments s s' := by
  cases h with
  | waiting h => exact .waiting (h.lifecycle.trans hl) h.world.memory
  | @entered home g _ _ hopens hothers hcourse =>
    generalize hl' : s'.lifecycle = l at hcourse
    cases hcourse with
    | owned hfresh hwork hreceived =>
      refine .owned (.inl ⟨_, hl'⟩) hreceived (fun n bs hmem => ?_) hothers
      simp [boot_notMem_of_isWork hwork n bs] at hmem
    | ended hfresh hwork hreceived =>
      rw [starting, List.cons_append, List.cons_append] at hreceived
      refine .owned (.inr hl') hreceived (fun n bs hmem => ?_) hothers
      simp [ending, boot_notMem_of_isWork hwork n bs] at hmem
    | adopted hforeign hworks =>
      exact .adopted hl' hworks.trace (boot_notMem_of_isWork hworks.isWork) hothers

end Library

/-- What becomes of the arguments that the steps ask for, in a session with either kind of guest. -/
structure Arrive (environment : Option Path) (steps : List Settings.Step) : Prop where
  mini : (∀ t ∈ Settings.argumentsOf steps, Terminated.IsSendable t) →
    ∀ failures running host ops, Mini.Handed (Settings.argumentsOf steps)
      (Mini.run (Mini.newSession ⟨.build environment steps, failures⟩ running host) ops).session
  library : (∀ t ∈ Settings.argumentsOf steps, Terminated.IsSendable t) →
    ∀ w uses, ∃ answers s,
      (⟨⟨.build environment steps⟩, .uninitialized, w⟩ : LibrarySession).useAll uses =
        (.ok answers, s) ∧
      Library.Handed (Settings.argumentsOf steps)
        ⟨⟨.build environment steps⟩, .uninitialized, w⟩ s
  /-- Otherwise nothing is opened, no failure to open is used up, and nothing is noted. -/
  refused : (∃ t ∈ Settings.argumentsOf steps, ¬ Terminated.IsSendable t) →
    ∃ i, (∀ failures running host ops, ∃ s,
        (Mini.run (Mini.newSession ⟨.build environment steps, failures⟩ running host) ops).session =
          s ∧ s.Refuses i ∧ s.source = ⟨.build environment steps, failures⟩ ∧
        s.world.memory.record = {} ∧ s.world.host = host) ∧
      ∀ w uses, (⟨⟨.build environment steps⟩, .uninitialized, w⟩ : LibrarySession).useAll uses =
        (.ok (uses.map (Session.refusal i)), ⟨⟨.build environment steps⟩, .uninitialized, w⟩)

/-- However the settings of a session were built, and whatever is done with it. -/
theorem arguments_arrive (environment : Option Path) (steps : List Settings.Step) :
    Arrive environment steps where
  mini hsend failures running host ops :=
    Mini.run_handed hsend (Settings.arguments_build environment steps) running host ops
  library hsend w uses := by
    let s₀ : LibrarySession := ⟨⟨.build environment steps⟩, .uninitialized, w⟩
    have hwaiting : Library.InCourse s₀ [] s₀ := .waiting ⟨rfl, rfl, .refl _⟩
    obtain ⟨answers, s, more, huses, -, hin⟩ := Library.useAll_keeps_course rfl hwaiting uses
    refine ⟨answers, s, huses, ?_⟩
    rw [← Settings.arguments_build environment steps]
    exact hin.handed rfl
  refused := by
    rintro ⟨t, ht, hzero⟩
    obtain ⟨i, hi⟩ : ∃ i, Terminated.ofTexts (Settings.argumentsOf steps) = .error i := by
      rcases Terminated.sendable_or_zero (Settings.argumentsOf steps) with
        hsend | ⟨before, u, after, i, heq, hbefore, hu⟩
      · exact absurd (hsend t ht) hzero
      · exact ⟨i, by rw [heq, Terminated.ofTexts_of_zero hbefore hu]⟩
    rw [← Settings.arguments_build environment steps] at hi
    refine ⟨i, fun failures running host ops => ?_, fun w uses => ?_⟩
    · obtain ⟨leaky, mode, hs⟩ := Mini.run_of_zero (p := ⟨.build environment steps, failures⟩) hi
        running host ops
      exact ⟨_, hs, Session.refuses_of_arguments rfl hi, rfl, rfl, rfl⟩
    · have hrefuses :
          (⟨⟨.build environment steps⟩, .uninitialized, w⟩ : LibrarySession).Refuses i :=
        Session.refuses_of_arguments rfl hi
      exact hrefuses.useAll uses

end GuestRuntime
