import GuestRuntime.Proofs.Library.Image
import GuestRuntime.Proofs.Library.Opening
import GuestRuntime.Proofs.Session.Likeness

/-!
Libraries that keep their depth counter to themselves. It is the one symbol a library may lack, so a
disk where every library lacks it besides opens the same guests, which only do not show the depth:

        disk      libR.so   all symbols                  depth shown
        veiled    libR.so   all but the counter's        depth unknown

Parses can be scripted to leak roots, which moves the counter; where none is, guests of the one disk
and of the other are alike. Main statements: `find?_veiled` and `likeness`.
-/

namespace GuestRuntime

namespace Library

open Scripted

/-- The directory with a library that lacks its counter. -/
def Directory.veiled : Directory → Directory
  | .installation lacking => .installation (depthSymbol :: lacking)
  | .other => .other

/-- A library that lacks its counter besides what it lacks. -/
def veiled (library : String × List String) : String × List String :=
  (library.1, depthSymbol :: library.2)

/-- The counter is not required. -/
theorem firstMissing?_veiled (lacking : List String) :
    firstMissing? (depthSymbol :: lacking) = firstMissing? lacking := by
  have hne : ∀ symbol ∈ requiredSymbols, symbol ≠ depthSymbol := by decide
  unfold firstMissing?
  generalize requiredSymbols = symbols at hne
  induction symbols with
  | nil => rfl
  | cons symbol symbols ih =>
    have hsymbol := hne symbol List.mem_cons_self
    have hrest := ih fun other h => hne other (List.mem_cons_of_mem symbol h)
    rw [List.find?_cons, List.find?_cons, hrest, List.contains_cons,
      beq_eq_false_iff_ne.mpr hsymbol, Bool.false_or]

/-! ### The counter -/

/-- From one state of a library to another its counter has risen by so much, and of the scripted
parses some may be left. -/
structure Counts (rise : Int) (m m' : Image) : Prop where
  top : m'.top = m.top + rise
  parses : m'.parses ⊆ m.parses

variable {m m' m'' : Image} {l : Loaded}

theorem counts_same (ht : m'.top = m.top) (hp : m'.parses = m.parses) : Counts 0 m m' :=
  ⟨by rw [ht, Int.add_zero], hp ▸ List.Subset.refl _⟩

theorem Counts.trans {rise : Int} (h : Counts 0 m m') (h' : Counts rise m' m'') :
    Counts rise m m'' :=
  ⟨by rw [h'.top, h.top, Int.add_zero], List.Subset.trans h'.parses h.parses⟩

theorem Counts.keep {rise : Int} (h : Counts rise m m') (ht : m''.top = m'.top)
    (hp : m''.parses = m'.parses) : Counts rise m m'' :=
  ⟨ht.trans h.top, hp ▸ h.parses⟩

theorem counts_outwards (os : List Outward) : Counts 0 m (m.outwards os).2 := by
  induction os generalizing m with
  | nil => exact counts_same rfl rfl
  | cons o os ih =>
    have hone : Counts 0 m (m.outward o).2 := by
      cases o with
      | write b n k =>
        unfold Image.outward
        dsimp only
        split <;> exact counts_same rfl rfl
      | _ => exact counts_same rfl rfl
    exact hone.trans ih

theorem counts_tryEval (expr env : Obj) (failed : Int) :
    Counts 0 m (m.tryEval expr env failed).2.2 := by
  unfold Image.tryEval
  split
  · exact counts_same rfl rfl
  · rename_i r rest _
    have hout := counts_outwards (m := { m with evals := rest }) r.outward
    have hstart : Counts 0 m { m with evals := rest } := counts_same rfl rfl
    dsimp only
    split
    · exact (hstart.trans hout).keep rfl rfl
    · exact (hstart.trans hout).keep rfl rfl

theorem counts_parse (hm : ∀ r ∈ m.parses, r.leak = 0) (text : Obj) (limit : Int) (source : Obj) :
    Counts 0 m (m.parse text limit source).2 := by
  have hleak : (m.parses.headD {}).leak = 0 := by
    cases hp : m.parses with
    | nil => rfl
    | cons r rest => exact hm r (hp ▸ List.mem_cons_self)
  have hnext : Counts 0 m
      { m with parses := m.parses.tail, top := m.top + (m.parses.headD {}).leak } :=
    ⟨by rw [hleak], (List.tail_sublist _).subset⟩
  unfold Image.parse
  dsimp only
  split
  · exact hnext.keep rfl rfl
  · exact hnext.keep rfl rfl

/-- Where no parse leaks, an entry point raises the counter by what it roots. -/
theorem counts_answer (hm : ∀ r ∈ m.parses, r.leak = 0) (l : Loaded) (e : Entry) :
    Counts e.rise m (answer l e m).2.2 := by
  cases e with
  | protect x => exact ⟨rfl, List.Subset.refl _⟩
  | unprotect n => exact ⟨rfl, List.Subset.refl _⟩
  | parse text => exact counts_parse hm text _ _
  | tryEval expr env flag => exact counts_tryEval expr env flag
  | _ => exact counts_same rfl rfl

namespace Disk

variable {d : Disk}

/-- The disk where every library lacks its counter. -/
def veiled (d : Disk) : Disk where
  directory name := (d.directory name).map Directory.veiled
  elsewhere p := (d.elsewhere p).map Library.veiled
  images := d.images

theorem enter_veiled (d : Disk) : d.veiled.enter = d.enter := by
  funext entered part
  simp [enter, veiled]

theorem here?_veiled (d : Disk) (p : Path) : d.veiled.here? p = (d.here? p).map Library.veiled := by
  unfold here?
  rw [enter_veiled]
  rcases parts? p with _ | parts
  · rfl
  simp only [Option.bind_eq_bind, Option.bind_some]
  rcases parts.foldlM d.enter [] with _ | entered
  · rfl
  simp only [Option.bind_some]
  split
  · rename_i name
    simp only [veiled]
    rcases d.directory name with _ | (lacking | _) <;> rfl
  · rfl

/-- Where the working directory has no directories, no library is in it. -/
theorem here?_of_none (hd : ∀ name, d.directory name = none) (p : Path) : d.here? p = none := by
  unfold here?
  rcases parts? p with _ | parts
  · rfl
  simp only [Option.bind_eq_bind, Option.bind_some]
  rcases parts.foldlM d.enter [] with _ | entered
  · rfl
  simp only [Option.bind_some]
  split
  · rw [hd]
    rfl
  · rfl

/-- The same libraries are found. -/
theorem find?_veiled (d : Disk) (p : Path) : d.veiled.find? p = (d.find? p).map Library.veiled := by
  unfold find?
  rw [here?_veiled]
  by_cases hz : p.bytes.contains 0
  · simp only [hz, if_true]
    rfl
  · simp only [hz]
    cases d.here? p with
    | some library => rfl
    | none => rfl

/-- Every library shows its counter, and no parse will leak a root. -/
structure IsShown (d : Disk) : Prop where
  shown : ∀ p library, d.find? p = some library → depthSymbol ∉ library.2
  leakless : ∀ name, ∀ r ∈ (d.image name).parses, r.leak = 0

theorem IsShown.answered (hd : d.IsShown) (l : Loaded) (e : Entry) :
    (d.setImage l.name (answer l e (d.image l.name)).2.2).IsShown where
  shown := hd.shown
  leakless name r hr := by
    by_cases hname : name = l.name
    · subst hname
      rw [image_setImage] at hr
      exact hd.leakless _ r ((counts_answer (hd.leakless _) l e).parses hr)
    · rw [image_setImage_of_ne hname] at hr
      exact hd.leakless name r hr

end Disk

/-! ### Guests -/

/-- The guest whose library lacks its counter. -/
def Loaded.veiled (l : Loaded) : Loaded := { l with showsDepth := false }

theorem answer_veiled (l : Loaded) {e : Entry} (he : e.asksDepth = false) (m : Image) :
    answer l.veiled e m = answer l e m := by
  cases e with
  | depth => cases he
  | _ => rfl

/-- What a call does to a library is the same, also where it is asked for its depth. -/
theorem image_veiled (l : Loaded) (e : Entry) (m : Image) :
    (answer l.veiled e m).2.2 = (answer l e m).2.2 := by
  cases e <;> rfl

/-- The disk is one where every library shows its counter, and the other that where they lack it. -/
def DisksAlike (d d' : Disk) : Prop := d.IsShown ∧ d' = d.veiled

theorem resolve_isImbalance {settings : Settings} {query : HomeQuery} {f : Fault}
    (h : Home.resolve settings query = .error f) : f.isImbalance = false := by
  unfold Home.resolve at h
  split at h
  · cases h
  · cases hask : Home.ask query with
    | ok home => simp [hask, Except.map] at h
    | error f' =>
      rw [hask] at h
      cases h
      unfold Home.ask at hask
      split at hask
      · cases hask
        rfl
      · split at hask
        · split at hask
          · cases hask
          · cases hask
            rfl
        · cases hask
          rfl

variable {w w' t t' : World Disk}

theorem worldsAlike_unmoved (h : WorldsAlike DisksAlike w w') (ht : Unmoved w t)
    (ht' : Unmoved w' t') : WorldsAlike DisksAlike t t' where
  memory := by
    rw [ht.memory, ht'.memory]
    exact h.memory
  home := by rw [ht.home, ht'.home, h.home]
  query := by rw [ht.query, ht'.query, h.query]

/-- Loading a library gives the same fault, or a guest that shows its counter and one that does
not. -/
theorem load_veiled (path : Path) (h : WorldsAlike DisksAlike w w') :
    (∃ f t t', f.isImbalance = false ∧ load path w = (.error f, t) ∧
        load path w' = (.error f, t') ∧ WorldsAlike DisksAlike t t') ∨
      ∃ l t t', l.showsDepth = true ∧ load path w = (.ok l, t) ∧
        load path w' = (.ok l.veiled, t') ∧ WorldsAlike DisksAlike t t' := by
  obtain ⟨hd, hd'⟩ := h.memory
  have hfind' : w'.memory.find? path = (w.memory.find? path).map veiled := by
    rw [hd', Disk.find?_veiled]
  rcases hfind : w.memory.find? path with _ | ⟨name, lacking⟩
  · rw [hfind] at hfind'
    exact .inl ⟨_, w, w', rfl, load_of_none hfind, load_of_none hfind', h⟩
  rw [hfind] at hfind'
  have hshown : depthSymbol ∉ lacking := hd.shown path _ hfind
  have hmissing' := firstMissing?_veiled lacking
  rcases hmissing : firstMissing? lacking with _ | symbol
  · rw [hmissing] at hmissing'
    obtain ⟨t, ht, hunmoved⟩ := load_of_complete hfind hmissing
    obtain ⟨t', ht', hunmoved'⟩ := load_of_complete hfind' hmissing'
    refine .inr ⟨_, t, t', by simpa using hshown, ht, ?_, worldsAlike_unmoved h hunmoved hunmoved'⟩
    rw [ht']
    simp [Loaded.veiled]
  · rw [hmissing] at hmissing'
    obtain ⟨t, ht, hunmoved⟩ := load_of_missing hfind hmissing
    obtain ⟨t', ht', hunmoved'⟩ := load_of_missing hfind' hmissing'
    exact .inl ⟨_, t, t', rfl, ht, ht', worldsAlike_unmoved h hunmoved hunmoved'⟩

/-- Opening a guest does too. -/
theorem openGuest_veiled (x : Locator) (h : WorldsAlike DisksAlike w w') :
    OpenedAlike (fun l l' => l.showsDepth = true ∧ l' = l.veiled) Eq (WorldsAlike DisksAlike)
      (Locator.openGuest x w) (Locator.openGuest x w') := by
  have hquery : Home.resolve x.settings w'.host.query = Home.resolve x.settings w.host.query := by
    rw [h.query]
  rcases hresolved : Home.resolve x.settings w.host.query with f | ⟨home, note⟩
  · simp only [Locator.openGuest, hquery, hresolved]
    exact .failed (resolve_isImbalance hresolved) rfl h
  have hresolved' := hquery.trans hresolved
  obtain ⟨path, hnamed⟩ : ∃ path, Home.libraryPath home = .ok path := ⟨_, rfl⟩
  have hnoted := worldsAlike_unmoved h (unmoved_note w note) (unmoved_note w' note)
  rcases load_veiled path hnoted with
    ⟨f, t, t', hf, ht, ht', halike⟩ | ⟨l, t, t', hl, ht, ht', halike⟩
  · rw [openGuest_of_load_error hresolved hnamed ht, openGuest_of_load_error hresolved' hnamed ht']
    exact .failed hf rfl halike
  · rw [openGuest_of_load hresolved hnamed ht, openGuest_of_load hresolved' hnamed ht']
    exact .opened ⟨hl, rfl⟩ rfl ⟨halike.memory, rfl, halike.query⟩

/-- Guests of a disk whose libraries show their counter, and of the disk where these lack it. -/
def likeness : Likeness Locator Loaded Disk Locator Loaded Disk where
  guests l l' := l.showsDepth = true ∧ l' = l.veiled
  memories := DisksAlike
  sources := Eq
  counter l d := (d.image l.name).top
  answers := by
    rintro l _ d _ ⟨-, rfl⟩ ⟨-, rfl⟩ e he
    exact congrArg Except.ok (congrArg Prod.fst (answer_veiled l he _).symm)
  remains := by
    rintro l _ d _ ⟨-, rfl⟩ ⟨hd, rfl⟩ e
    refine ⟨hd.answered l e, ?_⟩
    exact congrArg (d.veiled.setImage l.name) (image_veiled l e _)
  shows := by
    rintro l _ d _ ⟨hl, rfl⟩ ⟨hd, rfl⟩
    exact congrArg Except.ok (if_pos hl)
  hides := by
    rintro l _ d _ ⟨-, rfl⟩ ⟨-, rfl⟩
    rfl
  counts := by
    rintro l _ d _ ⟨-, rfl⟩ ⟨hd, rfl⟩ e x -
    have hcounts := (counts_answer (hd.leakless l.name) l e).top
    exact (congrArg Image.top Disk.image_setImage).trans hcounts
  returns := by
    rintro l _ d _ ⟨-, rfl⟩ ⟨-, rfl⟩ x y hy
    exact (Except.ok.inj hy).symm
  arguments := by
    rintro x _ rfl
    rfl
  opens := by
    rintro x _ w w' rfl hw
    exact openGuest_veiled x hw

/-- A session with an installation in the root directory whose library shows its counter, which
stands below zero. -/
def belowZero : Session.Kept Locator Loaded Disk where
  source := ⟨⟨{ home := some (.ofString "/R") }⟩⟩
  world :=
    { memory := ⟨{ directory := fun _ => none
                   elsewhere := fun p => if p = rootLibrary then some ("R", []) else none
                   images := [("R", { top := -3 })] }, []⟩
      host := { output := { shared := .buffer [] }, home := none, query := .missing } }

/-- The same session where the library lacks its counter. -/
def belowZeroVeiled : Session.Kept Locator Loaded Disk :=
  { belowZero with
    world := { belowZero.world with memory := ⟨belowZero.world.memory.memory.veiled, []⟩ } }

theorem belowZero_isShown : belowZero.world.memory.memory.IsShown where
  shown p library h := by
    have hhere : belowZero.world.memory.memory.here? p = none := Disk.here?_of_none (fun _ => rfl) p
    unfold Disk.find? at h
    rw [hhere] at h
    split at h
    · cases h
    · have helsewhere : (if p = rootLibrary then some ("R", []) else none) = some library := h
      split at helsewhere
      · cases helsewhere
        simp
      · cases helsewhere
  leakless name r hr := by
    have himage : (belowZero.world.memory.memory.image name).parses = [] := by
      by_cases hname : name = "R"
      · subst hname
        rfl
      · simp [Disk.image, belowZero, List.lookup_cons, beq_eq_false_iff_ne.mpr hname]
    rw [himage] at hr
    cases hr

set_option maxRecDepth 4000 in
/-- A start, an evaluation and a stop, of which none is refused. -/
theorem useAll_whether_depth_shows_belowZero :
    let uses : List Use := [.start, .evaluate "x" none, .stop false]
    (belowZero.world.memory.memory.image "R").top = -3 ∧
      (belowZero.useAll uses).2.state = .shutDown ∧
      (belowZeroVeiled.useAll uses).2.state = .shutDown ∧
      (belowZero.useAll uses).1.map (List.map Used.unnumbered) =
        (belowZeroVeiled.useAll uses).1.map (List.map Used.unnumbered) ∧
      (belowZero.useAll uses).2.world.memory.calls =
        (belowZeroVeiled.useAll uses).2.world.memory.calls := by
  have hsessions : likeness.recorded.Sessions belowZero belowZeroVeiled :=
    ⟨rfl, .uninitialized, ⟨⟨belowZero_isShown, rfl⟩, rfl⟩, rfl, rfl⟩
  have hended : (belowZero.useAll [.start, .evaluate "x" none, .stop false]).2.state = .shutDown :=
    rfl
  obtain ⟨hanswers, hstate, hcalls, -⟩ := Likeness.useAll_whether_depth_shows likeness hsessions
    [.start, .evaluate "x" none, .stop false]
  exact ⟨rfl, hended, hstate.symm.trans hended, hanswers, hcalls⟩

end Library
end GuestRuntime
