import GuestRuntime.Proofs.Library.Image
import GuestRuntime.Proofs.Library.Opening
import GuestRuntime.Proofs.Process.Operations

/-!
What a library is called over the whole life of a session. The first start that opens the library
decides: a fresh library is started, works and is ended at most once; one that somebody has started
or wired before only works, and its wiring stays:

        fresh:   boot, main loop ──▶ work of evaluations ──▶ the six steps that end it
        else:                        work of evaluations

A library that is not opened is not called. Main statement: `useAll_inCourse`.
-/

namespace GuestRuntime.Library

open Dialogue Scripted Image Disk Session

/-- Whether a use of a session evaluates. -/
def isEvaluation : Use → Bool
  | .evaluate _ _ => true
  | _ => false

variable {s s₁ s₂ : LibrarySession} {parts : List (List Received)}

/-! ### The course of a library -/

/-- What the library of `g` has received and what has become of its wiring: `m` is the library when
it was opened, `m'` what it is now, and `parts` what each evaluation that reached it had it do. -/
inductive Course (arguments : List Bytes) (g : Loaded) (m m' : Image)
    (parts : List (List Received)) : Lifecycle Loaded → Prop
  | owned {k} (hfresh : IsFresh m) (hwork : ∀ r ∈ parts.flatten, r.isWork = true)
      (hreceived : Receives (starting arguments ++ parts.flatten) m m') :
      Course arguments g m m' parts (.running g ⟨k, .owned⟩)
  | ended {fatal} (hfresh : IsFresh m) (hwork : ∀ r ∈ parts.flatten, r.isWork = true)
      (hreceived : Receives (starting arguments ++ parts.flatten ++ ending fatal) m m') :
      Course arguments g m m' parts .shutDown
  | adopted {k} (hforeign : ¬ IsFresh m) (hworks : Works parts.flatten m m') :
      Course arguments g m m' parts (.running g ⟨k, .adopted⟩)

theorem Course.guest_eq {arguments : List Bytes} {g g' : Loaded} {m m' : Image}
    {l : Lifecycle Loaded} {hd : Handle} (h : Course arguments g m m' parts l)
    (hl : l = .running g' hd) : g = g' := by
  cases h with
  | owned | adopted =>
    cases hl
    rfl
  | ended => cases hl

/-- One evaluation more that reaches the library. -/
theorem Course.evaluation {arguments : List Bytes} {g : Loaded} {m m' m'' : Image} {hd : Handle}
    {part : List Received} (h : Course arguments g m m' parts (.running g hd))
    (hpart : Works part m' m'') : Course arguments g m m'' (parts ++ [part]) (.running g hd) := by
  have hflatten : (parts ++ [part]).flatten = parts.flatten ++ part := by simp
  cases h with
  | owned hfresh hwork hreceived =>
    refine .owned hfresh ?_ ?_
    · rw [hflatten]
      exact fun r hr => (List.mem_append.mp hr).elim (hwork r) (hpart.isWork r)
    · rw [hflatten, ← List.append_assoc]
      exact hreceived.trans hpart.trace
  | adopted hforeign hworks =>
    refine .adopted hforeign ?_
    rw [hflatten]
    exact hworks.trans hpart

/-- What has become of a session `s` that had not been started, and of the libraries. -/
inductive InCourse (s : LibrarySession) : List (List Received) → LibrarySession → Prop
  /-- No library has been opened, and none has been called. -/
  | waiting {s'} (huntouched : Untouched s s') : InCourse s [] s'
  /-- One library has been opened, and no other has been called. -/
  | entered {home g parts s'} (hopens : OpensIn s home g)
      (hothers : ∀ other, other ≠ g.name →
        s'.world.memory.image other = s.world.memory.image other)
      (hcourse : Course (s.source.settings.arguments.map Utf8.encode) g
        (s.world.memory.image g.name) (s'.world.memory.image g.name) parts s'.lifecycle) :
      InCourse s parts s'

/-- Whatever leaves the session's stage and the libraries alone once one is opened. -/
theorem InCourse.of_entered {home : Path} {g : Loaded} (hopens : OpensIn s home g)
    (hothers : ∀ other, other ≠ g.name →
      s₁.world.memory.image other = s.world.memory.image other)
    (hcourse : Course (s.source.settings.arguments.map Utf8.encode) g
      (s.world.memory.image g.name) (s₁.world.memory.image g.name) parts s₁.lifecycle)
    (hl : s₂.lifecycle = s₁.lifecycle) (hm : s₂.world.memory = s₁.world.memory) :
    InCourse s parts s₂ := by
  refine .entered hopens (fun other hne => ?_) ?_
  · rw [hm]
    exact hothers other hne
  · rw [hl, hm]
    exact hcourse

/-- A library that has just been opened is brought up, by its owner or as somebody else's. -/
theorem course_bringUp {g : Loaded} {home : Path} {w : World Disk} (hopens : OpensIn s home g)
    (hmemory : w.memory = s.world.memory) :
    ∃ o w', (bringUp (s.source.settings.arguments.map Utf8.encode)).run g w = (.ok o, w') ∧
      ∀ s₁ : LibrarySession, (∃ k, s₁.lifecycle = .running g ⟨k, o⟩) →
        s₁.world.memory = w'.memory → InCourse s [] s₁ := by
  by_cases hfresh : IsFresh (s.world.memory.image g.name)
  · have hfresh' : IsFresh (w.memory.image g.name) := by rwa [hmemory]
    obtain ⟨w', hrun, hreceived, hothers⟩ := run_bringUp_owned hfresh'
      (s.source.settings.arguments.map Utf8.encode)
    rw [hmemory] at hreceived hothers
    refine ⟨.owned, w', hrun, fun s₁ ⟨k, hl⟩ hm => .entered hopens ?_ ?_⟩
    · rw [hm]
      exact hothers
    · rw [hl, hm]
      exact .owned hfresh (by simp) (by rwa [List.flatten_nil, List.append_nil])
  · have hforeign : ¬ IsFresh (w.memory.image g.name) := by rwa [hmemory]
    obtain ⟨w', hrun, hworks, hothers⟩ := run_bringUp_adopted hforeign
      (s.source.settings.arguments.map Utf8.encode)
    rw [hmemory] at hworks hothers
    refine ⟨.adopted, w', hrun, fun s₁ ⟨k, hl⟩ hm => .entered hopens ?_ ?_⟩
    · rw [hm]
      exact hothers
    · rw [hl, hm]
      exact .adopted hfresh hworks

/-! ### Operations -/

/-- A start opens the library, if none has been and one can be; it is no evaluation. -/
theorem start_inCourse (hs : s.lifecycle = .uninitialized) (h : InCourse s parts s₁) :
    ∃ r s₂, s₁.start = (.ok r, s₂) ∧ InCourse s parts s₂ ∧
      ∀ hd, r = .ok hd → ∃ g, s₂.lifecycle = .running g hd := by
  cases h with
  | waiting huntouched =>
    have hs₁ : s₁.lifecycle = .uninitialized := huntouched.lifecycle.trans hs
    rcases obstacle_or_opens s.source.settings s.world.host.query s.world.memory with
      ⟨f, hf⟩ | ⟨home, g, hopens⟩
    · obtain ⟨s₂, hstart, huntouched'⟩ := start_of_obstacle hs₁ (huntouched.obstacle hf)
      exact ⟨.error f, s₂, hstart, .waiting (huntouched.trans huntouched'), by simp⟩
    · obtain ⟨w, hmemory, -, hstart⟩ := start_of_opens hs₁ (huntouched.opens hopens)
      obtain ⟨o, w', hrun, hcourse⟩ := course_bringUp hopens (hmemory.trans huntouched.world.memory)
      rw [← huntouched.source] at hrun
      obtain ⟨s₂, heq, -, hl, hm, -⟩ := hstart o w' hrun
      refine ⟨_, s₂, heq, hcourse s₂ ⟨_, hl⟩ hm, fun hd hhd => ⟨g, ?_⟩⟩
      rw [hl, Except.ok.inj hhd]
  | @entered home g _ _ hopens hothers hcourse =>
    have hin : InCourse s parts s₁ := .entered hopens hothers hcourse
    generalize hl : s₁.lifecycle = l at hcourse
    cases hcourse with
    | @owned k | @adopted k =>
      refine ⟨_, s₁, by rw [Session.start, hl], hin, fun hd hhd => ⟨g, ?_⟩⟩
      rw [hl, Except.ok.inj hhd]
    | ended => exact ⟨_, s₁, by rw [Session.start, hl], hin, by simp⟩

/-- An evaluation is a start, and then work if the session runs. -/
theorem evaluate_inCourse (hs : s.lifecycle = .uninitialized) (h : InCourse s parts s₁)
    (code : String) (env : Option Obj) :
    ∃ r s₂ more, s₁.evaluate code env = (.ok r, s₂) ∧ more.length ≤ 1 ∧
      InCourse s (parts ++ more) s₂ := by
  obtain ⟨r, s₂, hstart, hin, hr⟩ := start_inCourse hs h
  cases r with
  | error f =>
    refine ⟨.error f, s₂, [], evaluate_of_start_error hstart code env, by simp, ?_⟩
    rwa [List.append_nil]
  | ok hd =>
    obtain ⟨g, hl⟩ := hr hd rfl
    obtain ⟨r, w, hrun⟩ := run_loaded g (Dialogue.evaluate code env) s₂.world
    have heval : s₁.evaluate code env = (.ok r, { s₂ with world := w }) := by
      rw [Session.evaluate, hstart]
      simp only [hl, Session.converse, hrun]
    obtain ⟨part, hworks, hothers⟩ := run_works (l := g) (lifeless_evaluate code env []) s₂.world
    rw [hrun] at hworks hothers
    refine ⟨r, { s₂ with world := w }, [part], heval, by simp, ?_⟩
    cases hin with
    | waiting huntouched =>
      have hidle : s₂.lifecycle = .uninitialized := huntouched.lifecycle.trans hs
      rw [hl] at hidle
      cases hidle
    | @entered home g' _ _ hopens hothers' hcourse =>
      obtain rfl : g = g' := (hcourse.guest_eq hl).symm
      refine .entered hopens (fun other hne => (hothers other hne).trans (hothers' other hne)) ?_
      show Course _ _ _ (w.memory.image g.name) (parts ++ [part]) s₂.lifecycle
      rw [hl] at hcourse ⊢
      exact hcourse.evaluation hworks

/-- A stop ends the library of an owner, and does nothing else. -/
theorem stop_inCourse (hs : s.lifecycle = .uninitialized) (h : InCourse s parts s₁)
    (fatal : Bool) : ∃ r s₂, s₁.stop fatal = (.ok r, s₂) ∧ InCourse s parts s₂ := by
  cases h with
  | waiting huntouched =>
    have hs₁ : s₁.lifecycle = .uninitialized := huntouched.lifecycle.trans hs
    exact ⟨_, s₁, by rw [Session.stop, hs₁], .waiting huntouched⟩
  | @entered home g _ _ hopens hothers hcourse =>
    have hin : InCourse s parts s₁ := .entered hopens hothers hcourse
    have hcourse' := hcourse
    generalize hl : s₁.lifecycle = l at hcourse'
    cases hcourse' with
    | owned hfresh hwork hreceived =>
      obtain ⟨w, hrun, hreceived', hothers'⟩ := run_tearDown (l := g) s₁.world fatal
      have hstop : s₁.stop fatal = (.ok (.ok ()),
          { s₁ with lifecycle := .shutDown, world := w }.note (.shutDown fatal)) := by
        rw [Session.stop, hl]
        simp only [Session.converse, hrun]
      refine ⟨_, _, hstop, ?_⟩
      refine .entered hopens (fun other hne => (hothers' other hne).trans (hothers other hne)) ?_
      exact .ended hfresh hwork (hreceived.trans hreceived')
    | ended =>
      refine ⟨_, s₁.note .stoppedTwice, by rw [Session.stop, hl], ?_⟩
      exact .of_entered hopens hothers hcourse rfl rfl
    | adopted => exact ⟨_, s₁, by rw [Session.stop, hl], hin⟩

/-! ### Whole runs -/

/-- Every use is answered and keeps the course; only an evaluation adds to the work. -/
theorem use_inCourse (hs : s.lifecycle = .uninitialized) (h : InCourse s parts s₁) (u : Use) :
    ∃ a s₂ more, s₁.use u = (.ok a, s₂) ∧ more.length ≤ [u].countP isEvaluation ∧
      InCourse s (parts ++ more) s₂ := by
  cases u with
  | start =>
    obtain ⟨r, s₂, hstart, hin, -⟩ := start_inCourse hs h
    refine ⟨.started r, s₂, [], by rw [Session.use, hstart]; rfl, by simp, ?_⟩
    rwa [List.append_nil]
  | evaluate code env =>
    obtain ⟨r, s₂, more, hevaluate, hmore, hin⟩ := evaluate_inCourse hs h code env
    exact ⟨.evaluated r, s₂, more, by rw [Session.use, hevaluate]; rfl, hmore, hin⟩
  | stop fatal =>
    obtain ⟨r, s₂, hstop, hin⟩ := stop_inCourse hs h fatal
    refine ⟨.stopped r, s₂, [], by rw [Session.use, hstop]; rfl, by simp, ?_⟩
    rwa [List.append_nil]

theorem useAll_keeps_course (hs : s.lifecycle = .uninitialized) (h : InCourse s parts s₁)
    (uses : List Use) : ∃ answers s₂ more, s₁.useAll uses = (.ok answers, s₂) ∧
      more.length ≤ uses.countP isEvaluation ∧ InCourse s (parts ++ more) s₂ := by
  induction uses generalizing parts s₁ with
  | nil => exact ⟨[], s₁, [], rfl, by simp, by rwa [List.append_nil]⟩
  | cons u uses ih =>
    obtain ⟨a, s₂, more, huse, hmore, hin⟩ := use_inCourse hs h u
    obtain ⟨answers, s₃, more', huses, hmore', hin'⟩ := ih hin
    refine ⟨a :: answers, s₃, more ++ more', ?_, ?_, ?_⟩
    · rw [useAll, huse]
      simp only [huses]
      rfl
    · rw [← List.singleton_append, List.countP_append, List.length_append]
      exact Nat.add_le_add hmore hmore'
    · rwa [← List.append_assoc]

/-- Whatever the libraries have been through before, whatever is asked of a session, and wherever
its run is interrupted: what the library receives later is work of the later evaluations, apart from
its start and its end. -/
theorem useAll_inCourse (hs : s.lifecycle = .uninitialized) (before after : List Use) :
    ∃ answers s₁ parts answers' s₂ more,
      s.useAll before = (.ok answers, s₁) ∧ parts.length ≤ before.countP isEvaluation ∧
        InCourse s parts s₁ ∧
      s₁.useAll after = (.ok answers', s₂) ∧ more.length ≤ after.countP isEvaluation ∧
        InCourse s (parts ++ more) s₂ := by
  have hstart : InCourse s [] s := .waiting ⟨rfl, rfl, .refl _⟩
  obtain ⟨answers, s₁, parts, huses, hparts, hin⟩ := useAll_keeps_course hs hstart before
  obtain ⟨answers', s₂, more, huses', hmore, hin'⟩ := useAll_keeps_course hs hin after
  exact ⟨answers, s₁, parts, answers', s₂, more, huses, hparts, hin, huses', hmore, hin'⟩

/-- A library in the root directory that others have wired before. -/
def wiredSession : LibrarySession where
  source := ⟨{ home := some (.ofString "/R") }⟩
  world :=
    { memory :=
        { directory := fun _ => none
          elsewhere := fun p => if p = rootLibrary then some ("R", []) else none
          images := [("R", Image.prepared 1 0 0)] }
      host := { output := { shared := .buffer [] }, home := none, query := .missing } }

/-- It is worked with, and nobody ends it. -/
theorem useAll_inCourse_wired :
    wiredSession.lifecycle = .uninitialized ∧
      ∃ answers s', wiredSession.useAll [.start, .evaluate "1" none, .stop false] =
        (.ok answers, s') ∧ s'.lifecycle = .running ⟨rootLibrary, "R", true⟩ ⟨1, .adopted⟩ ∧
          ∃ parts : List (List Received), parts.length ≤ 1 ∧ Works parts.flatten
            (wiredSession.world.memory.image "R") (s'.world.memory.image "R") := by
  obtain ⟨answers, s', parts, -, -, -, huses, hparts, hin, -⟩ :=
    useAll_inCourse (s := wiredSession) rfl [.start, .evaluate "1" none, .stop false] []
  have hused : (wiredSession.useAll [.start, .evaluate "1" none, .stop false]).2 = s' := by
    rw [huses]
  have hl : s'.lifecycle = .running ⟨rootLibrary, "R", true⟩ ⟨1, .adopted⟩ := by
    rw [← hused]
    rfl
  cases hin with
  | waiting huntouched =>
    rw [huntouched.lifecycle] at hl
    cases hl
  | entered hopens hothers hcourse =>
    obtain rfl := hcourse.guest_eq hl
    rw [hl] at hcourse
    cases hcourse with
    | adopted hforeign hworks => exact ⟨rfl, answers, s', huses, hl, parts, hparts, hworks⟩

end GuestRuntime.Library
