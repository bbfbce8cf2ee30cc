import GuestRuntime.Proofs.Console.Capture
import GuestRuntime.Proofs.Mini.Runs

/-!
Sessions in different processes. Twins have the same source and the same memory and are at the same
stage; what numbers their handles have, and whatever else their processes do, is another matter:

        s ──op──▶ answer, t          one number, one console
        │ twin          │ twin
        s' ─op──▶ answer, t'         other ones

Every operation answers twins the same, but for the number of a handle, and leaves them twins. Main
statement: `Twin.observe`.
-/

namespace GuestRuntime

/-- The handle without its number. -/
def Handle.unnumbered (h : Handle) : Handle := { h with serial := 0 }

/-- The same stage, with a handle of another number perhaps. -/
inductive SameStage {ρ : Type} : Lifecycle ρ → Lifecycle ρ → Prop
  | uninitialized : SameStage .uninitialized .uninitialized
  | running (g : ρ) (n n' : Nat) (o : Ownership) :
    SameStage (.running g ⟨n, o⟩) (.running g ⟨n', o⟩)
  | shutDown : SameStage .shutDown .shutDown

namespace Mini

open Dialogue TheGuest

def Answer.unnumbered : Answer → Answer
  | started r => .started (r.map Handle.unnumbered)
  | a => a

/-- What an operation shows: its answer, what the object of an answer holds, the stage of the
session and the depth of its root stack, the console text, and what handle the session has now. -/
structure Seen where
  answer : Except Panic Answer
  content : Option Value
  state : State
  depth : Nat
  text : String
  handle : Option Handle

def Seen.unnumbered (x : Seen) : Seen :=
  { x with answer := x.answer.map Answer.unnumbered, handle := x.handle.map Handle.unnumbered }

/-- What the object of an answer holds, if the answer is one. -/
def content? (m : Machine) : Except Panic Answer → Option Value
  | .ok (.evaluated (.ok (.object x))) => m.object? x
  | _ => none

/-- One operation, its console text captured, and what it shows. -/
def observe (op : Op) (s : MiniSession) : Seen × MiniSession :=
  let (text, answer, s) := Session.captured (perform · op) s
  let m := s.world.memory
  (⟨answer, content? m answer, s.state, m.roots.length, text, s.handle?⟩, s)

/-- The same session in two processes, apart from the numbers of its handles. -/
structure Twin (s s' : MiniSession) : Prop where
  source : s.source = s'.source
  stage : SameStage s.lifecycle s'.lifecycle
  memory : s.world.memory = s'.world.memory

/-- Twins whose console text is captured. -/
structure HeldTwin (s s' : MiniSession) : Prop extends Twin s s' where
  held : ∃ text, s.world.host.output.own = some (.buffer text) ∧
    s'.world.host.output.own = some (.buffer text)

/-- The same answer to a start, with a handle of another number perhaps. -/
inductive SameStart : Except Panic (Except Fault Handle) → Except Panic (Except Fault Handle) → Prop
  | panicked (p : Panic) : SameStart (.error p) (.error p)
  | refused (f : Fault) : SameStart (.ok (.error f)) (.ok (.error f))
  | started (n n' : Nat) (o : Ownership) : SameStart (.ok (.ok ⟨n, o⟩)) (.ok (.ok ⟨n', o⟩))

/-- The same answer to an operation, likewise. -/
inductive SameReply : Except Panic Answer → Except Panic Answer → Prop
  | same (a : Except Panic Answer) : SameReply a a
  | started (n n' : Nat) (o : Ownership) :
    SameReply (.ok (.started (.ok ⟨n, o⟩))) (.ok (.started (.ok ⟨n', o⟩)))

/-- Two outcomes with answers that `R` relates, and twins after them. -/
def LeavesTwins {α : Type} (R : Except Panic α → Except Panic α → Prop)
    (x x' : Session.Result Provider TheGuest Machine α) : Prop :=
  ∃ r r' t t', x = (r, t) ∧ x' = (r', t') ∧ R r r' ∧ HeldTwin t t'

variable {s s' : MiniSession} {α : Type}

theorem Twin.state_eq (h : Twin s s') : s.state = s'.state := by
  obtain ⟨source, lifecycle, world⟩ := s
  obtain ⟨source', lifecycle', world'⟩ := s'
  obtain hstage : SameStage lifecycle lifecycle' := h.stage
  cases hstage <;> rfl

theorem Twin.handle_eq (h : Twin s s') :
    s.handle?.map Handle.unnumbered = s'.handle?.map Handle.unnumbered := by
  obtain ⟨source, lifecycle, world⟩ := s
  obtain ⟨source', lifecycle', world'⟩ := s'
  obtain hstage : SameStage lifecycle lifecycle' := h.stage
  cases hstage <;> rfl

/-! ### Operations whose text is captured -/

theorem HeldTwin.converse (h : HeldTwin s s') (g : TheGuest) (d : Dialogue α) :
    LeavesTwins Eq (s.converse g d) (s'.converse g d) := by
  obtain ⟨source, lifecycle, ⟨m, host⟩⟩ := s
  obtain ⟨source', lifecycle', ⟨m', host'⟩⟩ := s'
  obtain ⟨⟨rfl, hl, rfl⟩, held, ho, ho'⟩ := h
  obtain ⟨r, m₁, text, hrun⟩ := d.run_of_buffer g m held
  obtain ⟨h₁, hrun₁, ho₁⟩ := hrun host ho
  obtain ⟨h₁', hrun₁', ho₁'⟩ := hrun host' ho'
  simp only [Session.converse, hrun₁, hrun₁']
  exact ⟨r, r, _, _, rfl, rfl, rfl, ⟨rfl, hl, rfl⟩, text, ho₁, ho₁'⟩

/-- Opening a guest does not look at the process. -/
theorem HeldTwin.openGuest (h : HeldTwin s s') {source : Provider} {w : World Machine}
    {r : Except Fault TheGuest} (hopen : Source.openGuest s.source s.world = (r, source, w)) :
    ∃ w', Source.openGuest s'.source s'.world = (r, source, w') ∧
      HeldTwin { s with source, world := w } { s' with source, world := w' } := by
  obtain ⟨⟨settings, failures⟩, lifecycle, ⟨m, host⟩⟩ := s
  obtain ⟨source', lifecycle', ⟨m', host'⟩⟩ := s'
  obtain ⟨⟨rfl, hl, rfl⟩, hheld⟩ := h
  cases failures with
  | succ n =>
    cases hopen
    exact ⟨_, rfl, ⟨rfl, hl, rfl⟩, hheld⟩
  | zero =>
    cases hopen
    exact ⟨_, rfl, ⟨rfl, hl, rfl⟩, hheld⟩

theorem HeldTwin.start (h : HeldTwin s s') : LeavesTwins SameStart s.start s'.start := by
  obtain ⟨source, lifecycle, world⟩ := s
  obtain ⟨source', lifecycle', world'⟩ := s'
  obtain rfl : source = source' := h.source
  obtain hstage : SameStage lifecycle lifecycle' := h.stage
  cases hstage with
  | shutDown => exact ⟨_, _, _, _, rfl, rfl, .refused _, h⟩
  | running g n n' o => exact ⟨_, _, _, _, rfl, rfl, .started n n' o, h⟩
  | uninitialized =>
    unfold Session.start
    cases Terminated.ofTexts (Source.settings source).arguments with
    | error i => exact ⟨_, _, _, _, rfl, rfl, .refused _, h⟩
    | ok arguments =>
      rcases hopen : Source.openGuest source world with ⟨r, source₁, w⟩
      obtain ⟨w', hopen', h₁⟩ := h.openGuest hopen
      dsimp only at hopen' h₁ ⊢
      rw [hopen']
      cases r with
      | error f => exact ⟨_, _, _, _, rfl, rfl, .refused f, h₁⟩
      | ok g =>
        obtain ⟨r, _, t, t', hx, hx', rfl, h₂⟩ := h₁.converse g (.bringUp arguments)
        dsimp only
        rw [hx, hx']
        cases r with
        | error p => exact ⟨_, _, _, _, rfl, rfl, .panicked p, h₂⟩
        | ok o =>
          refine ⟨_, _, _, _, rfl, rfl, .started _ _ o, ?_⟩
          exact ⟨⟨h₂.source, .running g _ _ o, h₂.memory⟩, h₂.held⟩

theorem HeldTwin.stop (h : HeldTwin s s') (fatal : Bool) :
    LeavesTwins Eq (s.stop fatal) (s'.stop fatal) := by
  obtain ⟨source, lifecycle, world⟩ := s
  obtain ⟨source', lifecycle', world'⟩ := s'
  obtain hstage : SameStage lifecycle lifecycle' := h.stage
  cases hstage with
  | uninitialized => exact ⟨_, _, _, _, rfl, rfl, rfl, h⟩
  | shutDown => exact ⟨_, _, _, _, rfl, rfl, rfl, ⟨h.source, .shutDown, h.memory⟩, h.held⟩
  | running g n n' o =>
    cases o with
    | adopted => exact ⟨_, _, _, _, rfl, rfl, rfl, h⟩
    | owned =>
      obtain ⟨r, _, t, t', hx, hx', rfl, h₁⟩ := h.converse g (.tearDown fatal)
      unfold Session.stop
      dsimp only
      rw [hx, hx']
      cases r with
      | error p => exact ⟨_, _, _, _, rfl, rfl, rfl, h₁⟩
      | ok u =>
        exact ⟨_, _, _, _, rfl, rfl, rfl, ⟨h₁.source, .shutDown, h₁.memory⟩, h₁.held⟩

theorem HeldTwin.evaluate (h : HeldTwin s s') (code : String) (env : Option Obj) :
    LeavesTwins Eq (s.evaluate code env) (s'.evaluate code env) := by
  obtain ⟨r, r', ⟨source, lifecycle, world⟩, ⟨source', lifecycle', world'⟩, hx, hx', hr, h₁⟩ :=
    h.start
  unfold Session.evaluate
  rw [hx, hx']
  cases hr with
  | panicked p => exact ⟨_, _, _, _, rfl, rfl, rfl, h₁⟩
  | refused f => exact ⟨_, _, _, _, rfl, rfl, rfl, h₁⟩
  | started n n' o =>
    obtain hstage : SameStage lifecycle lifecycle' := h₁.stage
    cases hstage with
    | uninitialized => exact ⟨_, _, _, _, rfl, rfl, rfl, h₁⟩
    | shutDown => exact ⟨_, _, _, _, rfl, rfl, rfl, h₁⟩
    | running g n n' o => exact h₁.converse g (.evaluate code env)

theorem HeldTwin.switch (h : HeldTwin s s') (f : Machine → Machine) :
    HeldTwin (switch s f) (Mini.switch s' f) :=
  ⟨⟨h.source, h.stage, congrArg f h.memory⟩, h.held⟩

theorem HeldTwin.perform (h : HeldTwin s s') (op : Op) :
    LeavesTwins SameReply (perform s op) (Mini.perform s' op) := by
  unfold Mini.perform
  cases op with
  | start =>
    obtain ⟨r, r', t, t', hx, hx', hr, h₁⟩ := h.start
    simp only [hx, hx']
    refine ⟨_, _, _, _, rfl, rfl, ?_, h₁⟩
    cases hr with
    | panicked | refused => exact .same _
    | started n n' o => exact .started n n' o
  | evaluate code env =>
    obtain ⟨r, _, t, t', hx, hx', rfl, h₁⟩ := h.evaluate code env
    simp only [hx, hx']
    exact ⟨_, _, _, _, rfl, rfl, .same _, h₁⟩
  | stop fatal =>
    obtain ⟨r, _, t, t', hx, hx', rfl, h₁⟩ := h.stop fatal
    simp only [hx, hx']
    exact ⟨_, _, _, _, rfl, rfl, .same _, h₁⟩
  | leak => exact ⟨_, _, _, _, rfl, rfl, .same _, h.switch _⟩
  | messages mode => exact ⟨_, _, _, _, rfl, rfl, .same _, h.switch _⟩

/-! ### What is seen of an operation -/

theorem SameReply.unnumbered_eq {a a' : Except Panic Answer} (h : SameReply a a') :
    a.map Answer.unnumbered = a'.map Answer.unnumbered := by
  cases h <;> rfl

theorem SameReply.content?_eq {a a' : Except Panic Answer} (h : SameReply a a') (m : Machine) :
    content? m a = content? m a' := by
  cases h <;> rfl

/-- An operation on twins shows the same in both processes and leaves twins. -/
theorem Twin.observe (h : Twin s s') (op : Op) :
    (observe op s).1.unnumbered = (Mini.observe op s').1.unnumbered ∧
      Twin (Mini.observe op s).2 (Mini.observe op s').2 := by
  have hlistening : HeldTwin s.listening s'.listening :=
    ⟨⟨h.source, h.stage, h.memory⟩, [], rfl, rfl⟩
  obtain ⟨a, a', t, t', hx, hx', ha, h₁⟩ := hlistening.perform op
  obtain ⟨text, ho, ho'⟩ := h₁.held
  have h₂ : Twin (t.withOwn s.world.host.output.own) (t'.withOwn s'.world.host.output.own) :=
    ⟨h₁.source, h₁.stage, h₁.memory⟩
  have hmemory : (t.withOwn s.world.host.output.own).world.memory =
      (t'.withOwn s'.world.host.output.own).world.memory := h₂.memory
  have hcaptured : Session.captured (Mini.perform · op) s = _ := Session.captured_eq hx ho
  have hcaptured' : Session.captured (Mini.perform · op) s' = _ := Session.captured_eq hx' ho'
  simp only [Mini.observe, hcaptured, hcaptured', Seen.unnumbered, ha.unnumbered_eq,
    ha.content?_eq, h₂.state_eq, h₂.handle_eq, hmemory]
  exact ⟨trivial, h₂⟩

end Mini
end GuestRuntime
