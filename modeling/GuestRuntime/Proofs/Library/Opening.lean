import GuestRuntime.Library.Loaded
import GuestRuntime.Proofs.Console.View
import GuestRuntime.Proofs.Dialogue.Met
import GuestRuntime.Proofs.Text.Sendable

/-!
Opening a library is all or nothing. A start needs arguments that can be sent, a home, a library at
the home and in it every required symbol, and looks for them in this order:

        arguments ──▶ home ──▶ library ──▶ symbols ──▶ guest, and its home is told
            │           │          │           │
            └───────────┴──────────┴───────────┴──▶ the first obstacle, and nothing is changed

Either there is an obstacle, and a start, or the evaluation that needs one, answers with it and
leaves notes alone; or there is none, and the start succeeds. Main statement: `start_allOrNothing`.
-/

namespace GuestRuntime.Library

open Dialogue Terminated

variable {α : Type}

/-! ### What a start needs -/

section Needs

variable (settings : Settings) (query : HomeQuery) (disk : Disk)

/-- The home that the settings name or the installation gives, and where its library would be. -/
structure IsHome (home path : Path) : Prop where
  sendable : ∀ t ∈ settings.arguments, IsSendable t
  resolved : ∃ note, Home.resolve settings query = .ok (home, note)
  named : Home.libraryPath home = .ok path

/-- The first thing that stands in the way of a start, as the fault it is answered with. -/
inductive Obstacle : Fault → Prop
  | argument {before t after i} (harguments : settings.arguments = before ++ t :: after)
      (hbefore : ∀ u ∈ before, IsSendable u) (hzero : nulAt? (Utf8.encode t) = some i) :
      Obstacle (.misconfigured (.zeroInArgument i))
  | home {f} (hsendable : ∀ t ∈ settings.arguments, IsSendable t)
      (hhome : Home.resolve settings query = .error f) : Obstacle f
  | platform {home note f} (hsendable : ∀ t ∈ settings.arguments, IsSendable t)
      (hhome : Home.resolve settings query = .ok (home, note))
      (hpath : Home.libraryPath home = .error f) : Obstacle f
  | library {home path} (hhome : IsHome settings query home path)
      (hfind : disk.find? path = none) : Obstacle (.load path "")
  | symbol {home path name lacking before symbol after} (hhome : IsHome settings query home path)
      (hfind : disk.find? path = some (name, lacking))
      (hsymbols : requiredSymbols = before ++ symbol :: after) (hlacks : symbol ∈ lacking)
      (hbefore : ∀ t ∈ before, t ∉ lacking) : Obstacle (.missingSymbol path symbol)

/-- Everything a start needs is there. Of the symbols, that of the depth counter is not needed. -/
structure Opens (home : Path) (guest : Loaded) : Prop where
  isHome : IsHome settings query home guest.path
  found : ∃ lacking, disk.find? guest.path = some (guest.name, lacking) ∧
    (∀ symbol ∈ requiredSymbols, symbol ∉ lacking) ∧
    (guest.showsDepth = true ↔ depthSymbol ∉ lacking)

variable {settings query disk}

theorem firstMissing?_eq_none {lacking : List String} :
    firstMissing? lacking = none ↔ ∀ symbol ∈ requiredSymbols, symbol ∉ lacking := by
  simp [firstMissing?]

theorem firstMissing?_eq_some {lacking : List String} {symbol : String} :
    firstMissing? lacking = some symbol ↔ symbol ∈ lacking ∧
      ∃ before after, requiredSymbols = before ++ symbol :: after ∧ ∀ t ∈ before, t ∉ lacking := by
  simp [firstMissing?, List.find?_eq_some_iff_append]

/-- Either something is in the way of a start, or all it needs is there. -/
theorem obstacle_or_opens (settings : Settings) (query : HomeQuery) (disk : Disk) :
    (∃ f, Obstacle settings query disk f) ∨ ∃ home g, Opens settings query disk home g := by
  rcases sendable_or_zero settings.arguments with hsend | ⟨before, t, after, i, heq, hbefore, hz⟩
  · rcases hhome : Home.resolve settings query with f | ⟨home, note⟩
    · exact .inl ⟨f, .home hsend hhome⟩
    rcases hpath : Home.libraryPath home with f | path
    · exact .inl ⟨f, .platform hsend hhome hpath⟩
    have hishome : IsHome settings query home path := ⟨hsend, ⟨note, hhome⟩, hpath⟩
    rcases hfind : disk.find? path with _ | ⟨name, lacking⟩
    · exact .inl ⟨_, .library hishome hfind⟩
    rcases hmissing : firstMissing? lacking with _ | symbol
    · have hall := firstMissing?_eq_none.mp hmissing
      exact .inr ⟨home, ⟨path, name, !lacking.contains depthSymbol⟩, hishome, lacking, hfind, hall,
        by simp⟩
    · obtain ⟨hlacks, before, after, heq, hbefore⟩ := firstMissing?_eq_some.mp hmissing
      exact .inl ⟨_, .symbol hishome hfind heq hlacks hbefore⟩
  · exact .inl ⟨_, .argument heq hbefore hz⟩

end Needs

/-! ### A home that opens can be told -/

/-- A path below another holds what that one holds. -/
theorem mem_join {p q : Path} {b : UInt8} (hq : q.bytes.head? ≠ some Path.slash)
    (hb : b ∈ p.bytes) : b ∈ (p.join q).bytes := by
  unfold Path.join
  rw [if_neg hq]
  split
  · exact List.mem_append_left _ hb
  · exact List.mem_append_left _ hb

/-- Nothing is found below a home with a zero. -/
theorem find?_of_zero {disk : Disk} {home path : Path} (hpath : Home.libraryPath home = .ok path)
    (hz : 0 ∈ home.bytes) : disk.find? path = none := by
  have hlib : (Path.ofString "lib").bytes.head? ≠ some Path.slash := by decide
  have hname : (Path.ofString "libR.so").bytes.head? ≠ some Path.slash := by decide
  have hplatform : Home.libraryPath home =
      .ok ((home.join (.ofString "lib")).join (.ofString "libR.so")) := rfl
  rw [hplatform] at hpath
  cases hpath
  have hmem : 0 ∈ ((home.join (.ofString "lib")).join (.ofString "libR.so")).bytes :=
    mem_join hname (mem_join hlib hz)
  rw [Disk.find?, if_pos (List.contains_iff_mem.mpr hmem)]

/-! ### Starts that are refused -/

variable {s s' : LibrarySession} {f : Fault}

/-- What stands in the way of starting a session. -/
abbrev ObstacleOf (s : LibrarySession) : Fault → Prop :=
  Obstacle s.source.settings s.world.host.query s.world.memory

/-- What a session opens. -/
abbrev OpensIn (s : LibrarySession) : Path → Loaded → Prop :=
  Opens s.source.settings s.world.host.query s.world.memory

/-- The worlds differ in their journals alone: every library is as it was, so is what a guest reads
as its home, and nothing was written to the console. -/
structure Unmoved (w w' : World Disk) : Prop where
  memory : w'.memory = w.memory
  home : w'.host.home = w.host.home
  query : w'.host.query = w.host.query
  serial : w'.host.nextSerial = w.host.nextSerial
  console : w'.host.console = w.host.console

theorem Unmoved.refl (w : World Disk) : Unmoved w w := ⟨rfl, rfl, rfl, rfl, rfl⟩

theorem unmoved_note (w : World Disk) (n : Note) : Unmoved w { w with host := w.host.note n } :=
  ⟨rfl, rfl, rfl, rfl, rfl⟩

theorem Unmoved.trans {w w' w'' : World Disk} (h : Unmoved w w') (h' : Unmoved w' w'') :
    Unmoved w w'' where
  memory := h'.memory.trans h.memory
  home := h'.home.trans h.home
  query := h'.query.trans h.query
  serial := h'.serial.trans h.serial
  console := h'.console.trans h.console

/-- The session is as it was, and so is its world apart from the journal. -/
structure Untouched (s s' : LibrarySession) : Prop where
  source : s'.source = s.source
  lifecycle : s'.lifecycle = s.lifecycle
  world : Unmoved s.world s'.world

/-- What stood in the way still does. -/
theorem Untouched.obstacle (h : Untouched s s') (hf : ObstacleOf s f) : ObstacleOf s' f := by
  rw [ObstacleOf, h.source, h.world.query, h.world.memory]
  exact hf

theorem Untouched.opens {home : Path} {g : Loaded} (h : Untouched s s') (hg : OpensIn s home g) :
    OpensIn s' home g := by
  rw [OpensIn, h.source, h.world.query, h.world.memory]
  exact hg

theorem Untouched.trans {s'' : LibrarySession} (h : Untouched s s') (h' : Untouched s' s'') :
    Untouched s s'' :=
  ⟨h'.source.trans h.source, h'.lifecycle.trans h.lifecycle, h.world.trans h'.world⟩

theorem load_of_none {path : Path} {w : World Disk} (hfind : w.memory.find? path = none) :
    load path w = (.error (.load path ""), w) := by
  rw [load, hfind]

/-- Of a library that lacks a symbol at most its depth counter is noted. -/
theorem load_of_missing {path : Path} {w : World Disk} {name symbol : String}
    {lacking : List String} (hfind : w.memory.find? path = some (name, lacking))
    (hmissing : firstMissing? lacking = some symbol) :
    ∃ w', load path w = (.error (.missingSymbol path symbol), w') ∧ Unmoved w w' := by
  by_cases hdepth : depthSymbol ∈ lacking
  · refine ⟨{ w with host := w.host.note .depthUnknown }, ?_, unmoved_note w _⟩
    simp [load, hfind, hmissing, hdepth]
  · refine ⟨w, ?_, .refl w⟩
    simp [load, hfind, hmissing, hdepth]

/-- The library of an installation with all required symbols is loaded. -/
theorem load_of_complete {path : Path} {w : World Disk} {name : String} {lacking : List String}
    (hfind : w.memory.find? path = some (name, lacking)) (hmissing : firstMissing? lacking = none) :
    ∃ w', load path w = (.ok ⟨path, name, !lacking.contains depthSymbol⟩, w') ∧ Unmoved w w' := by
  by_cases hdepth : depthSymbol ∈ lacking
  · refine ⟨{ w with host := (w.host.note .depthUnknown).note (.loaded path) }, ?_, ?_⟩
    · simp [load, hfind, hmissing, hdepth]
    · exact (unmoved_note w .depthUnknown).trans (unmoved_note _ _)
  · refine ⟨{ w with host := w.host.note (.loaded path) }, ?_, unmoved_note w _⟩
    simp [load, hfind, hmissing, hdepth]

/-! ### Starts -/

section Open

variable {l : Locator} {w w' : World Disk} {home path : Path} {note : Note}
  (hresolved : Home.resolve l.settings w.host.query = .ok (home, note))
  (hnamed : Home.libraryPath home = .ok path)

include hresolved hnamed

theorem openGuest_of_load_error
    (hload : load path { w with host := w.host.note note } = (.error f, w')) :
    Locator.openGuest l w = (.error f, l, w') := by
  simp only [Locator.openGuest, hresolved, hnamed, hload]

/-- Only a guest whose library is loaded is told its home. -/
theorem openGuest_of_load {g : Loaded}
    (hload : load path { w with host := w.host.note note } = (.ok g, w')) :
    Locator.openGuest l w =
      (.ok g, l, { w' with host := { w'.host with home := some home } }) := by
  simp only [Locator.openGuest, hresolved, hnamed, hload]

end Open

/-- What stands in the way of a start whose arguments can be sent, opening the guest finds. -/
theorem openGuest_of_obstacle (hsend : ∀ t ∈ s.source.settings.arguments, IsSendable t)
    (hf : ObstacleOf s f) :
    ∃ w, Locator.openGuest s.source s.world = (.error f, s.source, w) ∧ Unmoved s.world w := by
  cases hf with
  | @argument before t after i harguments hbefore hzero =>
    have ht : IsSendable t := hsend t (by simp [harguments])
    simp [isSendable_iff.mp ht] at hzero
  | home _ hhome => exact ⟨s.world, by simp only [Locator.openGuest, hhome], .refl _⟩
  | @platform home note f _ hhome hpath =>
    refine ⟨{ s.world with host := s.world.host.note note }, ?_, unmoved_note s.world note⟩
    simp only [Locator.openGuest, hhome, hpath]
  | library hhome hfind =>
    obtain ⟨-, ⟨note, hresolved⟩, hnamed⟩ := hhome
    have hload := load_of_none (w := { s.world with host := s.world.host.note note }) hfind
    exact ⟨_, openGuest_of_load_error hresolved hnamed hload, unmoved_note s.world note⟩
  | symbol hhome hfind hsymbols hlacks hbefore =>
    obtain ⟨-, ⟨note, hresolved⟩, hnamed⟩ := hhome
    have hmissing := firstMissing?_eq_some.mpr ⟨hlacks, _, _, hsymbols, hbefore⟩
    obtain ⟨w, hload, hw⟩ := load_of_missing
      (w := { s.world with host := s.world.host.note note }) hfind hmissing
    exact ⟨w, openGuest_of_load_error hresolved hnamed hload, (unmoved_note s.world note).trans hw⟩

/-- A start with something in its way is answered with that and changes nothing. -/
theorem start_of_obstacle (hs : s.lifecycle = .uninitialized) (hf : ObstacleOf s f) :
    ∃ s', s.start = (.ok (.error f), s') ∧ Untouched s s' := by
  by_cases hsend : ∀ t ∈ s.source.settings.arguments, IsSendable t
  · obtain ⟨w, hopen, hw⟩ := openGuest_of_obstacle hsend hf
    have hsent : ofTexts (Source.settings s.source).arguments =
        .ok (s.source.settings.arguments.map Utf8.encode) := ofTexts_of_sendable hsend
    have hsource : Source.openGuest s.source s.world = (.error f, s.source, w) := hopen
    refine ⟨{ s with world := w }, ?_, rfl, rfl, hw⟩
    rw [Session.start, hs]
    simp only [hsent, hsource]
  · cases hf with
    | @argument before t after i harguments hbefore hzero =>
      have hrefused : ofTexts (Source.settings s.source).arguments = .error i := by
        show ofTexts s.source.settings.arguments = _
        rw [harguments, ofTexts_of_zero hbefore hzero]
      refine ⟨s, ?_, rfl, rfl, .refl _⟩
      rw [Session.start, hs]
      simp only [hrefused]
    | home hsendable | platform hsendable => exact absurd hsendable hsend
    | library hhome | symbol hhome => exact absurd hhome.sendable hsend

/-! ### Starts that succeed -/

/-- Nothing a guest is asked changes what it would read as its home. -/
theorem run_home {ρ σ : Type} [Guest ρ σ] (g : ρ) (d : Dialogue α) (w : World σ) :
    (d.run g w).2.host.home = w.host.home :=
  Dialogue.Steps.run (R := fun w w' => w'.host.home = w.host.home)
    ⟨fun _ => rfl, fun h h' => h'.trans h, fun _ _ => rfl, fun _ _ => rfl⟩ d w

/-- A library answers whatever it is asked. -/
theorem run_loaded (g : Loaded) (d : Dialogue α) (w : World Disk) :
    ∃ a w', d.run g w = (.ok a, w') := by
  induction d generalizing w with
  | done a => exact ⟨a, w, rfl⟩
  | note n d ih => exact ih _
  | ask e held k ih => exact ih _ _

/-- Opening a guest for which all is there tells it its home, and changes no library. -/
theorem openGuest_of_opens {home : Path} {g : Loaded} (h : OpensIn s home g) :
    ∃ w, Locator.openGuest s.source s.world = (.ok g, s.source, w) ∧
      w.memory = s.world.memory ∧ w.host.home = some home := by
  obtain ⟨⟨-, ⟨note, hresolved⟩, hnamed⟩, lacking, hfind, hall, hshows⟩ := h
  obtain ⟨w, hload, hw⟩ := load_of_complete (w := { s.world with host := s.world.host.note note })
    hfind (firstMissing?_eq_none.mpr hall)
  have hdepth : g.showsDepth = !lacking.contains depthSymbol := by
    rw [Bool.eq_iff_iff, hshows]
    simp
  rw [← hdepth] at hload
  exact ⟨_, openGuest_of_load hresolved hnamed hload, hw.memory, rfl⟩

/-- Such a start brings the guest up, and enters its life as the owner that makes it. -/
theorem start_of_opens {home : Path} {g : Loaded} (hs : s.lifecycle = .uninitialized)
    (h : OpensIn s home g) :
    ∃ w, w.memory = s.world.memory ∧ w.host.home = some home ∧ ∀ o w',
      (bringUp (s.source.settings.arguments.map Utf8.encode)).run g w = (.ok o, w') →
        ∃ s', s.start = (.ok (.ok ⟨w'.host.nextSerial, o⟩), s') ∧ s'.source = s.source ∧
          s'.lifecycle = .running g ⟨w'.host.nextSerial, o⟩ ∧ s'.world.memory = w'.memory ∧
          s'.world.host.home = w'.host.home := by
  obtain ⟨w, hopen, hmemory, hhome⟩ := openGuest_of_opens h
  have hsent : ofTexts (Source.settings s.source).arguments =
      .ok (s.source.settings.arguments.map Utf8.encode) := ofTexts_of_sendable h.isHome.sendable
  have hsource : Source.openGuest s.source s.world = (.ok g, s.source, w) := hopen
  refine ⟨w, hmemory, hhome, fun o w' hrun => ?_⟩
  refine ⟨(Session.enter { s with world := w' } g o).2, ?_, rfl, rfl, rfl, rfl⟩
  rw [Session.start, hs]
  simp only [hsent, hsource, Session.converse, hrun]
  rfl

/-- An evaluation needs the start that it begins with. -/
theorem evaluate_of_start_error (hstart : s.start = (.ok (.error f), s')) (code : String)
    (env : Option Obj) : s.evaluate code env = (.ok (.error f), s') := by
  rw [Session.evaluate, hstart]

/-! ### The whole -/

/-- What is true of starting a session that has not been started. -/
structure AllOrNothing (s : LibrarySession) : Prop where
  /-- Something is in the way, or all that is needed is there. -/
  total : (∃ f, ObstacleOf s f) ∨ ∃ home g, OpensIn s home g
  /-- What is in the way is the answer, of an evaluation too, and will be again; nothing but the
  journal is changed. -/
  refused : ∀ f, ObstacleOf s f → ∃ s', s.start = (.ok (.error f), s') ∧
    (∀ code env, s.evaluate code env = (.ok (.error f), s')) ∧
    s'.state = .uninitialized ∧ Untouched s s' ∧ s'.start.1 = .ok (.error f)
  /-- Otherwise the start succeeds, and the guest is told the home, which has no zero. -/
  opened : ∀ home g, OpensIn s home g → ∃ h s', s.start = (.ok (.ok h), s') ∧
    s'.lifecycle = .running g h ∧ s'.world.host.home = some home ∧ 0 ∉ home.bytes

/-- Whatever the settings, the installation's answer and the disk. -/
theorem start_allOrNothing (hs : s.lifecycle = .uninitialized) : AllOrNothing s where
  total := obstacle_or_opens _ _ _
  refused f hf := by
    obtain ⟨s', hstart, huntouched⟩ := start_of_obstacle hs hf
    have hs' : s'.lifecycle = .uninitialized := huntouched.lifecycle.trans hs
    obtain ⟨s'', hagain, -⟩ := start_of_obstacle hs' (huntouched.obstacle hf)
    refine ⟨s', hstart, evaluate_of_start_error hstart, ?_, huntouched, by rw [hagain]⟩
    rw [Session.state, hs']
    rfl
  opened home g h := by
    obtain ⟨w, -, hhome, hstart⟩ := start_of_opens hs h
    obtain ⟨o, w', hrun⟩ := run_loaded g (bringUp (s.source.settings.arguments.map Utf8.encode)) w
    obtain ⟨s', heq, -, hs', -, hhome'⟩ := hstart o w' hrun
    have hkept := run_home g (bringUp (s.source.settings.arguments.map Utf8.encode)) w
    rw [hrun] at hkept
    refine ⟨_, s', heq, hs', hhome'.trans (hkept.trans hhome), fun hz => ?_⟩
    obtain ⟨lacking, hfind, -⟩ := h.found
    rw [find?_of_zero h.isHome.named hz] at hfind
    cases hfind

/-- The library of an installation in the root directory. -/
def rootLibrary : Path := .ofString "/R/lib/libR.so"

/-- An installation that lacks two symbols; the home that a guest would read is another one. -/
def lackingSession : LibrarySession where
  source := ⟨{ home := some (.ofString "/R") }⟩
  world :=
    { memory :=
        { directory := fun _ => none
          elsewhere := fun p => if p = rootLibrary then some ("R", ["R_gc", "TYPEOF"]) else none }
      host := { output := { shared := .buffer [] }, home := some (.ofString "/S"),
                query := .missing } }

/-- The symbol that is looked up first is the one that is named, and the home stays. -/
theorem start_allOrNothing_lacking :
    lackingSession.lifecycle = .uninitialized ∧
      ∃ s', lackingSession.start = (.ok (.error (.missingSymbol rootLibrary "TYPEOF")), s') ∧
        s'.state = .uninitialized ∧ s'.world.host.home = some (.ofString "/S") := by
  have hsend : ∀ t ∈ lackingSession.source.settings.arguments, IsSendable t := by decide
  have hhome : IsHome lackingSession.source.settings lackingSession.world.host.query
      (.ofString "/R") rootLibrary := ⟨hsend, ⟨_, rfl⟩, congrArg Except.ok (by decide)⟩
  have hfind : lackingSession.world.memory.find? rootLibrary = some ("R", ["R_gc", "TYPEOF"]) := by
    decide
  have hsymbols : requiredSymbols =
      requiredSymbols.take 20 ++ "TYPEOF" :: requiredSymbols.drop 21 := by decide
  have hf : ObstacleOf lackingSession (.missingSymbol rootLibrary "TYPEOF") :=
    .symbol hhome hfind hsymbols (by decide) (by decide)
  obtain ⟨s', hstart, -, hstate, huntouched, -⟩ := (start_allOrNothing rfl).refused _ hf
  exact ⟨rfl, s', hstart, hstate, huntouched.world.home⟩

end GuestRuntime.Library
