import GuestRuntime.Library.Loaded
import GuestRuntime.Proofs.Binding
import GuestRuntime.Proofs.Dialogue.Lifeless

/-!
What the calls of a guest do to its library. A call that neither starts nor ends the guest leaves
the callback slots and the stack limit as they are, and the library receives work and nothing else;
so it is for a whole dialogue of such calls. Other libraries are never touched. Main statements:
`works_answer` and `run_works`.
-/

namespace GuestRuntime

namespace Scripted

/-- What a library receives to work, not to start or to end. -/
def Received.isWork : Received → Bool
  | .boot .. | .setUpMainLoop .. | .runLast | .runFinalizers | .killDevices | .cleanTempDir
  | .collect | .finish _ => false
  | _ => true

/-- The callback slots and the stack limit. -/
structure Wiring where
  write : WriteSlot
  plain : Bool
  messages : Bool
  cleanUp : Bool
  events : Bool
  busy : Bool
  unlimited : Bool
  deriving DecidableEq, Repr

namespace Image

def wiring (m : Image) : Wiring :=
  ⟨m.write, m.plain, m.messages, m.cleanUp, m.events, m.busy, m.unlimited⟩

/-- From one state of a library to another it has received this work, and its wiring stays. -/
structure Works (work : List Received) (m m' : Image) : Prop where
  trace : m'.trace.toList = m.trace.toList ++ work
  isWork : ∀ r ∈ work, r.isWork = true
  wiring : m'.wiring = m.wiring

variable {m m' m'' : Image} {work work' : List Received}

theorem Works.trans (h : Works work m m') (h' : Works work' m' m'') :
    Works (work ++ work') m m'' where
  trace := by rw [h'.trace, h.trace, List.append_assoc]
  isWork r hr := (List.mem_append.mp hr).elim (h.isWork r) (h'.isWork r)
  wiring := h'.wiring.trans h.wiring

theorem works_nil (ht : m'.trace = m.trace) (hw : m'.wiring = m.wiring) : Works [] m m' :=
  ⟨by simp [ht], by simp, hw⟩

/-- One piece of work, whatever else the library keeps of it. -/
theorem works_one {r : Received} (ht : m'.trace = m.trace.push r) (hw : m'.wiring = m.wiring)
    (hr : r.isWork = true) : Works [r] m m' :=
  ⟨by simp [ht], by simpa using hr, hw⟩

theorem works_parse (text : Obj) (limit : Int) (source : Obj) :
    ∃ r, Works [r] m (m.parse text limit source).2 := by
  unfold parse
  dsimp only
  split
  · exact ⟨_, works_one rfl rfl rfl⟩
  · exact ⟨_, works_one rfl rfl rfl⟩

/-- A callback goes out; if it goes to somebody else's writer, that is noted. -/
theorem works_outward (o : Outward) : ∃ work, Works work m (m.outward o).2 := by
  cases o with
  | write b n k =>
    unfold outward
    dsimp only
    split
    · exact ⟨[], works_nil rfl rfl⟩
    · exact ⟨_, works_one rfl rfl rfl⟩
    · exact ⟨[], works_nil rfl rfl⟩
  | message b | cleanUp | processEvents | busy => exact ⟨[], works_nil rfl rfl⟩

theorem works_outwards (os : List Outward) : ∃ work, Works work m (m.outwards os).2 := by
  induction os generalizing m with
  | nil => exact ⟨[], works_nil rfl rfl⟩
  | cons o os ih =>
    obtain ⟨work, hwork⟩ := works_outward (m := m) o
    obtain ⟨work', hwork'⟩ := ih (m := (m.outward o).2)
    exact ⟨work ++ work', hwork.trans hwork'⟩

theorem works_tryEval (expr env : Obj) (failed : Int) :
    ∃ work, Works work m (m.tryEval expr env failed).2.2 := by
  unfold tryEval
  split
  · exact ⟨_, works_one rfl rfl rfl⟩
  · rename_i r rest _
    obtain ⟨work, hwork⟩ := works_outwards (m := { m with evals := rest }) r.outward
    have hstart : Works [] m { m with evals := rest } := works_nil rfl rfl
    dsimp only
    split
    · exact ⟨_, (hstart.trans hwork).trans (works_one rfl rfl rfl)⟩
    · exact ⟨_, (hstart.trans hwork).trans (works_one rfl rfl rfl)⟩

end Image
end Scripted

namespace Library

open Scripted Image

/-- An entry point that neither starts nor ends the guest is work for its library. -/
theorem works_answer (l : Loaded) {e : Entry} (he : e.purpose ≠ .life) (m : Image) :
    ∃ work, Works work m (answer l e m).2.2 := by
  cases e with
  | isInitialized | boot | installCallbacks | disableStackCheck | setUpMainLoop | runLast
  | runFinalizers | killDevices | cleanTempDir | collect | finish => exact absurd rfl he
  | globalEnv | depth => exact ⟨[], works_nil rfl rfl⟩
  | parse text =>
    obtain ⟨r, hr⟩ := works_parse (m := m) text allExpressions m.nilValue
    exact ⟨_, hr⟩
  | tryEval expr env flag => exact works_tryEval expr env flag
  | setString v i text =>
    have hchars : Works [_] m (m.makeChars text utf8Encoding).2 := works_one rfl rfl rfl
    exact ⟨_, hchars.trans (works_one rfl rfl rfl)⟩
  | _ => exact ⟨_, works_one rfl rfl rfl⟩

/-! ### One library among all -/

namespace Disk

variable {d d' d'' : Disk} {name other : String} {m : Image} {work work' : List Received}

@[simp] theorem image_setImage : (d.setImage name m).image name = m := by
  rw [image, setImage, List.lookup_cons_self, Option.getD_some]

theorem image_setImage_of_ne (h : other ≠ name) :
    (d.setImage name m).image other = d.image other := by
  rw [image, setImage, lookup_rebind_of_ne h]
  rfl

/-- Of all libraries one has received something, in a way that `P` says. -/
def Changes (name : String) (P : Image → Image → Prop) (d d' : Disk) : Prop :=
  P (d.image name) (d'.image name) ∧ ∀ other, other ≠ name → d'.image other = d.image other

theorem changes_setImage {P : Image → Image → Prop} (h : P (d.image name) m) :
    Changes name P d (d.setImage name m) := by
  refine ⟨?_, fun other hne => image_setImage_of_ne hne⟩
  rw [image_setImage]
  exact h

theorem Changes.trans {P Q R : Image → Image → Prop} (h : Changes name P d d')
    (h' : Changes name Q d' d'') (hR : ∀ m m' m'', P m m' → Q m' m'' → R m m'') :
    Changes name R d d'' :=
  ⟨hR _ _ _ h.1 h'.1, fun other hne => (h'.2 other hne).trans (h.2 other hne)⟩

end Disk

open Dialogue Disk

variable {α : Type} {l : Loaded}

/-- A dialogue of such entry points is work for the library of its guest. -/
theorem run_works {d : Dialogue α} {past : List Exchange} {Q : Goal α}
    (hd : d.Abides lifeless past Q) (w : World Disk) :
    ∃ work, Changes l.name (Works work) w.memory (d.run l w).2.memory := by
  induction d generalizing past w with
  | done a => exact ⟨[], works_nil rfl rfl, fun _ _ => rfl⟩
  | note n d ih => exact ih hd { w with host := w.host.note n }
  | ask e held k ih =>
    obtain ⟨work, hwork⟩ := works_answer l hd.1 (w.memory.image l.name)
    obtain ⟨work', hwork'⟩ := ih _ (hd.2 _ trivial) (w.call l e).2
    exact ⟨work ++ work', (changes_setImage hwork).trans hwork' fun _ _ _ => Works.trans⟩

/-! ### Starting and ending -/

/-- Nobody has started the library, and nobody has its console. -/
def IsFresh (m : Image) : Prop := m.write = .vacant ∧ m.globalEnv = Obj.null

instance (m : Image) : Decidable (IsFresh m) :=
  inferInstanceAs (Decidable (m.write = .vacant ∧ m.globalEnv = Obj.null))

/-- What a library receives that is started: the main loop is set up once the callbacks are
installed, other writers are gone and the stack has no limit. -/
def starting (arguments : List Bytes) : List Received :=
  [.boot (shortened arguments.length) arguments,
    .setUpMainLoop .host false true true true true true]

/-- What a library receives that is ended. -/
def ending (fatal : Bool) : List Received :=
  [.runLast, .runFinalizers, .killDevices, .cleanTempDir, .collect, .finish fatal]

/-- One state of a library and the next, between which it received these calls. -/
def Receives (calls : List Received) (m m' : Image) : Prop :=
  m'.trace.toList = m.trace.toList ++ calls

theorem receives_one {m m' : Image} {r : Received} (h : m'.trace = m.trace.push r) :
    Receives [r] m m' := by
  rw [Receives, h, Array.toList_push]

theorem Receives.trans {m m' m'' : Image} {calls calls' : List Received}
    (h : Receives calls m m') (h' : Receives calls' m' m'') : Receives (calls ++ calls') m m'' := by
  rw [Receives, h', h, List.append_assoc]

/-- A library says that it has been started unless it is fresh. -/
theorem call_isInitialized (w : World Disk) : w.call l .isInitialized =
    (.ok (!decide (IsFresh (w.memory.image l.name))),
      ⟨w.memory.setImage l.name (w.memory.image l.name), w.host⟩) := by
  have hanswer : ((w.memory.image l.name).write != .vacant ||
      (w.memory.image l.name).globalEnv != Obj.null) =
        !decide (IsFresh (w.memory.image l.name)) := by
    unfold IsFresh
    by_cases hw : (w.memory.image l.name).write = .vacant <;>
      by_cases hg : (w.memory.image l.name).globalEnv = Obj.null <;> simp [hw, hg]
  rw [← hanswer]
  rfl

/-- A start is received as it is. -/
theorem call_boot (w : World Disk) (arguments : List Bytes) :
    ∃ status w', w.call l (.boot arguments) = (.ok status, w') ∧
      Changes l.name (Receives [.boot (shortened arguments.length) arguments])
        w.memory w'.memory :=
  ⟨_, _, rfl, changes_setImage (receives_one rfl)⟩

/-- What follows the start of a guest. -/
def wire : Dialogue Ownership :=
  .ask .disableStackCheck [] fun _ => .ask .installCallbacks [] fun _ =>
    .ask .setUpMainLoop [] fun _ => .note .booted (.done .owned)

theorem bringUp_eq (arguments : List Bytes) : bringUp arguments =
    .ask .isInitialized [] fun running => if running then .note .adopted (.done .adopted) else
      .ask (.boot arguments) [] fun status => if status ≠ 0 then .note (.bootStatus status) wire
        else wire := by
  show Dialogue.ask .isInitialized [] _ = _
  refine congrArg (Dialogue.ask _ _) (funext fun running => ?_)
  cases running with
  | true => rfl
  | false =>
    show Dialogue.ask (.boot arguments) [] _ = _
    refine congrArg (Dialogue.ask _ _) (funext fun status => ?_)
    by_cases hstatus : status = 0
    · rw [if_neg (not_not_intro hstatus)]
      exact if_neg (not_not_intro hstatus)
    · rw [if_pos hstatus]
      exact if_pos hstatus

/-- A library that is not fresh is only asked. -/
theorem run_bringUp_adopted {w : World Disk} (h : ¬ IsFresh (w.memory.image l.name))
    (arguments : List Bytes) : ∃ w', (bringUp arguments).run l w = (.ok .adopted, w') ∧
      Changes l.name (Works []) w.memory w'.memory := by
  rw [bringUp_eq, run, call_isInitialized, decide_eq_false h]
  exact ⟨_, rfl, changes_setImage (works_nil rfl rfl)⟩

/-- From the start of a library to its main loop. -/
theorem run_wire (w : World Disk) : ∃ w', wire.run l w = (.ok .owned, w') ∧
    Changes l.name (Receives [.setUpMainLoop .host false true true true true true])
      w.memory w'.memory := by
  refine ⟨_, rfl, ?_, fun other hne => ?_⟩
  · simp [Guest.call, answer, Receives, Image.setUpMainLoop, Image.receive]
  · simp [Guest.call, image_setImage_of_ne hne]

/-- A fresh library is started. -/
theorem run_bringUp_owned {w : World Disk} (h : IsFresh (w.memory.image l.name))
    (arguments : List Bytes) : ∃ w', (bringUp arguments).run l w = (.ok .owned, w') ∧
      Changes l.name (Receives (starting arguments)) w.memory w'.memory := by
  rw [bringUp_eq, run, call_isInitialized, decide_eq_true h]
  simp only [Bool.not_true, Bool.false_eq_true, if_false]
  obtain ⟨status, w₁, hcall, hbooted⟩ := call_boot (l := l)
    ⟨w.memory.setImage l.name (w.memory.image l.name), w.host⟩ arguments
  have hasked : Changes l.name (Receives []) w.memory
      (w.memory.setImage l.name (w.memory.image l.name)) :=
    changes_setImage (List.append_nil _).symm
  have hfrom (host : Host) : ∃ w', wire.run l ⟨w₁.memory, host⟩ = (.ok .owned, w') ∧
      Changes l.name (Receives (starting arguments)) w.memory w'.memory := by
    obtain ⟨w', hrun, hwired⟩ := run_wire (l := l) ⟨w₁.memory, host⟩
    have hstarted := hasked.trans hbooted fun _ _ _ => Receives.trans
    exact ⟨w', hrun, hstarted.trans hwired fun _ _ _ => Receives.trans⟩
  rw [run, hcall]
  by_cases hstatus : status = 0
  · simp only [hstatus, ne_eq, not_true_eq_false, if_false]
    exact hfrom w₁.host
  · simp only [hstatus, ne_eq, not_false_eq_true, if_true]
    exact hfrom (w₁.host.note (.bootStatus status))

/-- The end of a library is received step by step. -/
theorem run_tearDown (w : World Disk) (fatal : Bool) : ∃ w', (tearDown fatal).run l w =
    (.ok (), w') ∧ Changes l.name (Receives (ending fatal)) w.memory w'.memory := by
  refine ⟨_, rfl, ?_, fun other hne => ?_⟩
  · simp [Guest.call, answer, Receives, Image.receive, ending]
  · simp [Guest.call, image_setImage_of_ne hne]

end Library
end GuestRuntime
