import GuestRuntime.Shared

/-!
Runs of a process with a shared session: any operations in any order, some of which hold the session
for a while, use it and may panic meanwhile. Every operation takes the session as the last one left
it, its lock poisoned or not, and does with it what it does with the session alone. So two processes
answer alike if a faithful view takes the session of one to that of the other:

        s  ──ops──▶ answers, t
        │ f                  │ f
        s' ──ops──▶ answers, t'

A panic while the session is held makes no difference to what comes later, which is the case of the
view that changes nothing. Main statements: `Alike.run`, `Alike.exit` and `visit_alike`.
-/

namespace GuestRuntime

variable {φ ρ σ φ' ρ' σ' α π : Type}

/-- What somebody who holds a session can do with it. -/
inductive Use
  | start
  | evaluate (code : String) (env : Option Obj)
  | stop (fatal : Bool)

inductive Used
  | started (r : Except Fault Handle)
  | evaluated (r : Except Fault HostValue)
  | stopped (r : Except Fault Unit)

namespace Session

variable [Guest ρ σ] [Source φ ρ σ]

def use (s : Session φ ρ σ) : Use → Result φ ρ σ Used
  | .start => (s.start.1.map .started, s.start.2)
  | .evaluate code env => ((s.evaluate code env).1.map .evaluated, (s.evaluate code env).2)
  | .stop fatal => ((s.stop fatal).1.map .stopped, (s.stop fatal).2)

/-- Uses in order, up to one at which the guest panics. -/
def useAll (s : Session φ ρ σ) : List Use → Result φ ρ σ (List Used)
  | [] => (.ok [], s)
  | u :: us =>
    match s.use u with
    | (.error p, s) => (.error p, s)
    | (.ok a, s) => ((useAll s us).1.map (a :: ·), (useAll s us).2)

/-! ### Views -/

variable [Configurable φ] [Guest ρ' σ'] [Source φ' ρ' σ'] [Configurable φ']

/-- A view of sessions is faithful if every operation on the view is a view of the operation. -/
structure Faithful (f : Session φ ρ σ → Session φ' ρ' σ') : Prop where
  state (t) : (f t).state = t.state
  note (t n) : (f t).note n = f (t.note n)
  anew (t settings) : (⟨Configurable.ofSettings settings, .uninitialized, (f t).world⟩ :
    Session φ' ρ' σ') = f ⟨Configurable.ofSettings settings, .uninitialized, t.world⟩
  start (t) : (f t).start = Prod.map id f t.start
  evaluate (t code env) : (f t).evaluate code env = Prod.map id f (t.evaluate code env)
  stop (t fatal) : (f t).stop fatal = Prod.map id f (t.stop fatal)

theorem faithful_id : Faithful (id : Session φ ρ σ → Session φ ρ σ) :=
  ⟨fun _ => rfl, fun _ _ => rfl, fun _ _ => rfl, fun _ => rfl, fun _ _ _ => rfl, fun _ _ => rfl⟩

variable {f : Session φ ρ σ → Session φ' ρ' σ'}

theorem Faithful.use (hf : Faithful f) (t : Session φ ρ σ) (u : Use) :
    (f t).use u = Prod.map id f (t.use u) := by
  cases u with
  | start => rw [Session.use, Session.use, hf.start]; rfl
  | evaluate code env => rw [Session.use, Session.use, hf.evaluate]; rfl
  | stop fatal => rw [Session.use, Session.use, hf.stop]; rfl

theorem Faithful.useAll (hf : Faithful f) (t : Session φ ρ σ) (us : List Use) :
    (f t).useAll us = Prod.map id f (t.useAll us) := by
  induction us generalizing t with
  | nil => rfl
  | cons u us ih =>
    rw [Session.useAll, Session.useAll, hf.use]
    rcases t.use u with ⟨p | a, t⟩
    · rfl
    · simp only [Prod.map, id, ih]

end Session

namespace Shared

/-- What can be done with the shared session. -/
inductive Op
  | configure (settings : Settings)
  | start
  | evaluate (code : String) (env : Option Obj)
  | stop (fatal : Bool)
  | state
  /-- Holds the session and uses it, then lets go of it or panics. -/
  | visit (uses : List Use) (panics : Bool)

inductive Answer
  | configured (r : Except Fault Unit)
  | started (r : Except Panic (Except Fault Handle))
  | evaluated (r : Except Panic (Except Fault HostValue))
  | stopped (r : Except Panic (Except Fault Unit))
  | stage (s : State)
  /-- What a visit gave; its panic is the guest's or its own. -/
  | visited (r : Except (Option Panic) (List Used))

section Run

variable [Guest ρ σ] [Source φ ρ σ] [Configurable φ]

/-- Uses of a session by somebody who then returns what they gave, or panics. -/
def visiting (uses : List Use) (panics : Bool) (t : Session φ ρ σ) :
    Except (Option Panic) (List Used) × Session φ ρ σ :=
  match t.useAll uses with
  | (.ok as, t) => (if panics then .error none else .ok as, t)
  | (.error p, t) => (.error (some p), t)

def visit (s : Shared φ ρ σ) (uses : List Use) (panics : Bool) :
    Except (Option Panic) (List Used) × Shared φ ρ σ :=
  s.holding (visiting uses panics)

def perform (s : Shared φ ρ σ) : Op → Answer × Shared φ ρ σ
  | .configure settings => (.configured (s.configure settings).1, (s.configure settings).2)
  | .start => (.started s.start.1, s.start.2)
  | .evaluate code env => (.evaluated (s.evaluate code env).1, (s.evaluate code env).2)
  | .stop fatal => (.stopped (s.stop fatal).1, (s.stop fatal).2)
  | .state => (.stage s.state.1, s.state.2)
  | .visit uses panics => (.visited (s.visit uses panics).1, (s.visit uses panics).2)

/-- Operations in order. -/
def run (s : Shared φ ρ σ) : List Op → List Answer × Shared φ ρ σ
  | [] => ([], s)
  | op :: ops => ((s.perform op).1 :: (run (s.perform op).2 ops).1, (run (s.perform op).2 ops).2)

/-- A start through the process, its own or an evaluation's, has found its guest owned here. -/
def Starts (s : Shared φ ρ σ) : Op → Prop
  | .start | .evaluate _ _ => ∃ h s', s.start = (.ok (.ok h), s') ∧ h.ownership = .owned
  | _ => False

/-- A stop has succeeded, of the process or of somebody who held the session. -/
def Stops (s : Shared φ ρ σ) : Op → Prop
  | .stop fatal => (s.stop fatal).1 = .ok (.ok ())
  | .visit uses _ => ∃ before fatal after, uses = before ++ .stop fatal :: after ∧
    ((s.acquire.useAll before).2.stop fatal).1 = .ok (.ok ())
  | _ => False

end Run

/-! ### Taking the session and putting it back -/

theorem lifecycle_of_state {t : Session φ ρ σ} (h : t.state = .uninitialized) :
    t.lifecycle = .uninitialized := by
  obtain ⟨source, lifecycle, world⟩ := t
  cases lifecycle with
  | uninitialized => rfl
  | running g hd => cases h
  | shutDown => cases h

section Lock

variable [Configurable φ] {s : Shared φ ρ σ}

/-- A poisoned lock gives the session all the same. -/
theorem acquire_eq (s : Shared φ ρ σ) : s.acquire = s.current := by
  unfold acquire lock
  cases s.poisoned <;> rfl

theorem current_note (s : Shared φ ρ σ) (n : Note) : (s.note n).current = s.current.note n := by
  obtain ⟨session, poisoned, tried, hooks, full, world⟩ := s
  cases session <;> rfl

theorem withSession_eq (f : Session φ ρ σ → α × Session φ ρ σ) :
    s.withSession f = ((f s.current).1, s.release (f s.current).2) := by
  rw [withSession, acquire_eq]

theorem holding_eq (f : Session φ ρ σ → Except π α × Session φ ρ σ) :
    ∃ b, s.holding f = ((f s.current).1, { s.release (f s.current).2 with poisoned := b }) := by
  rw [holding, acquire_eq]
  rcases f s.current with ⟨p | a, t⟩
  · exact ⟨true, rfl⟩
  · exact ⟨s.poisoned, rfl⟩

end Lock

/-! ### Registering the hook -/

section Hook

variable {s : Shared φ ρ σ}

theorem register_of_tried (ht : s.tried = true) : s.register = s := if_pos ht

theorem register_of_full (ht : s.tried = false) (hfull : s.full = true) :
    s.register = { s with tried := true }.note .hookRefused := by
  rw [register, ht, hfull]
  rfl

theorem register_of_room (ht : s.tried = false) (hfull : s.full = false) :
    s.register = { s with tried := true, hooks := s.hooks + 1 } := by
  rw [register, ht, hfull]
  rfl

theorem register_cases (s : Shared φ ρ σ) :
    (s.tried = true ∧ s.register = s) ∨
    (s.tried = false ∧ s.full = true ∧
      s.register = { s with tried := true }.note .hookRefused) ∨
    (s.tried = false ∧ s.full = false ∧
      s.register = { s with tried := true, hooks := s.hooks + 1 }) := by
  rcases Bool.eq_false_or_eq_true s.tried with ht | ht
  · exact .inl ⟨ht, register_of_tried ht⟩
  rcases Bool.eq_false_or_eq_true s.full with hfull | hfull
  · exact .inr (.inl ⟨ht, hfull, register_of_full ht hfull⟩)
  · exact .inr (.inr ⟨ht, hfull, register_of_room ht hfull⟩)

end Hook

/-! ### Processes that answer alike -/

/-- The view takes the session of one to that of the other, and the hook is the same; of their locks
nothing is said. -/
structure Alike [Configurable φ] [Configurable φ'] (f : Session φ ρ σ → Session φ' ρ' σ')
    (s : Shared φ ρ σ) (s' : Shared φ' ρ' σ') : Prop where
  current : s'.current = f s.current
  tried : s'.tried = s.tried
  hooks : s'.hooks = s.hooks
  full : s'.full = s.full

/-- The two answer the same and leave what is alike. -/
def AnswerAlike [Configurable φ] [Configurable φ'] (f : Session φ ρ σ → Session φ' ρ' σ')
    (r : α × Shared φ ρ σ) (r' : α × Shared φ' ρ' σ') : Prop :=
  ∃ a t t', r = (a, t) ∧ r' = (a, t') ∧ Alike f t t'

section Alike

variable [Configurable φ] [Configurable φ'] {f : Session φ ρ σ → Session φ' ρ' σ'}
  {s : Shared φ ρ σ} {s' : Shared φ' ρ' σ'}

theorem Alike.release (h : Alike f s s') (t : Session φ ρ σ) (b b' : Bool) :
    Alike f { s.release t with poisoned := b } { s'.release (f t) with poisoned := b' } :=
  ⟨rfl, h.tried, h.hooks, h.full⟩

theorem AnswerAlike.map {β : Type} {r : α × Shared φ ρ σ} {r' : α × Shared φ' ρ' σ'}
    (h : AnswerAlike f r r') (k : α → β) : AnswerAlike f (k r.1, r.2) (k r'.1, r'.2) := by
  obtain ⟨a, t, t', rfl, rfl, ht⟩ := h
  exact ⟨k a, t, t', rfl, rfl, ht⟩

/-- Nothing done with the session held sees whether the lock is poisoned. -/
theorem Alike.holding (h : Alike f s s') {k : Session φ ρ σ → Except π α × Session φ ρ σ}
    {k' : Session φ' ρ' σ' → Except π α × Session φ' ρ' σ'}
    (hk : ∀ t, k' (f t) = Prod.map id f (k t)) : AnswerAlike f (s.holding k) (s'.holding k') := by
  obtain ⟨b, hb⟩ := holding_eq (s := s) k
  obtain ⟨b', hb'⟩ := holding_eq (s := s') k'
  rw [hb, hb', h.current, hk]
  exact ⟨_, _, _, rfl, rfl, h.release _ _ _⟩

theorem Alike.withSession (h : Alike f s s') {k : Session φ ρ σ → α × Session φ ρ σ}
    {k' : Session φ' ρ' σ' → α × Session φ' ρ' σ'} (hk : ∀ t, k' (f t) = Prod.map id f (k t)) :
    AnswerAlike f (s.withSession k) (s'.withSession k') := by
  rw [withSession_eq, withSession_eq, h.current, hk]
  exact ⟨_, _, _, rfl, rfl, h.release _ _ _⟩

variable [Guest ρ σ] [Source φ ρ σ] [Guest ρ' σ'] [Source φ' ρ' σ']

theorem visiting_view (hf : Session.Faithful f) (uses : List Use) (panics : Bool)
    (t : Session φ ρ σ) : visiting uses panics (f t) = Prod.map id f (visiting uses panics t) := by
  rw [visiting, visiting, hf.useAll]
  rcases t.useAll uses with ⟨p | as, t⟩ <;> rfl

theorem Alike.note (h : Alike f s s') (hf : Session.Faithful f) (n : Note) :
    Alike f (s.note n) (s'.note n) := by
  refine ⟨?_, h.tried, h.hooks, h.full⟩
  rw [current_note, current_note, h.current, hf.note]

theorem Alike.register (h : Alike f s s') (hf : Session.Faithful f) :
    Alike f s.register s'.register := by
  rcases s.register_cases with ⟨ht, hr⟩ | ⟨ht, hfull, hr⟩ | ⟨ht, hfull, hr⟩
  · rw [hr, register_of_tried (h.tried.trans ht)]
    exact h
  · rw [hr, register_of_full (h.tried.trans ht) (h.full.trans hfull)]
    have htried : Alike f { s with tried := true } { s' with tried := true } :=
      ⟨h.current, rfl, h.hooks, h.full⟩
    exact htried.note hf _
  · rw [hr, register_of_room (h.tried.trans ht) (h.full.trans hfull)]
    exact ⟨h.current, rfl, congrArg (· + 1) h.hooks, h.full⟩

theorem Alike.stop (h : Alike f s s') (hf : Session.Faithful f) (fatal : Bool) :
    AnswerAlike f (s.stop fatal) (s'.stop fatal) :=
  h.holding fun t => hf.stop t fatal

theorem Alike.atExit (h : Alike f s s') (hf : Session.Faithful f) (held : Bool) :
    Alike f (s.atExit held) (s'.atExit held) := by
  obtain ⟨a, t, t', hr, hr', ht⟩ := h.stop hf false
  unfold Shared.atExit
  rw [acquire_eq, acquire_eq, h.current, hf.state, hr, hr']
  cases held with
  | true => exact h.note hf _
  | false =>
    simp only [Bool.false_eq_true, if_false]
    split
    · rcases a with p | (e | ⟨⟩)
      · exact ht.note hf _
      · exact ht.note hf _
      · exact ht
    · exact h

theorem Alike.exit (h : Alike f s s') (hf : Session.Faithful f) (held : Bool) :
    Alike f (s.exit held) (s'.exit held) := by
  unfold Shared.exit
  rw [h.hooks]
  generalize s.hooks = n
  induction n with
  | zero => exact h
  | succ n ih => exact ih.atExit hf held

theorem Alike.start (h : Alike f s s') (hf : Session.Faithful f) :
    AnswerAlike f s.start s'.start := by
  obtain ⟨a, t, t', hr, hr', ht⟩ := h.holding hf.start
  unfold Shared.start
  rw [hr, hr']
  rcases a with p | (e | hd)
  · exact ⟨_, _, _, rfl, rfl, ht⟩
  · exact ⟨_, _, _, rfl, rfl, ht⟩
  · refine ⟨_, _, _, rfl, rfl, ?_⟩
    split
    · exact ht.register hf
    · exact ht

theorem Alike.evaluate (h : Alike f s s') (hf : Session.Faithful f) (code : String)
    (env : Option Obj) : AnswerAlike f (s.evaluate code env) (s'.evaluate code env) := by
  obtain ⟨a, t, t', hr, hr', ht⟩ := h.start hf
  unfold Shared.evaluate
  rw [hr, hr']
  rcases a with p | (e | hd)
  · exact ⟨_, _, _, rfl, rfl, ht⟩
  · exact ⟨_, _, _, rfl, rfl, ht⟩
  · exact ht.holding fun t => hf.evaluate t code env

theorem Alike.configure (h : Alike f s s') (hf : Session.Faithful f) (settings : Settings) :
    AnswerAlike f (s.configure settings) (s'.configure settings) := by
  refine h.withSession fun t => ?_
  rw [hf.state]
  cases t.state with
  | uninitialized => exact congrArg _ (hf.anew t settings)
  | running => rfl
  | shutDown => rfl

theorem Alike.perform (h : Alike f s s') (hf : Session.Faithful f) (op : Op) :
    AnswerAlike f (s.perform op) (s'.perform op) := by
  cases op with
  | configure settings => exact (h.configure hf settings).map Answer.configured
  | start => exact (h.start hf).map Answer.started
  | evaluate code env => exact (h.evaluate hf code env).map Answer.evaluated
  | stop fatal => exact (h.stop hf fatal).map Answer.stopped
  | state => exact (h.withSession fun t => Prod.ext (hf.state t) rfl).map Answer.stage
  | visit uses panics => exact (h.holding (visiting_view hf uses panics)).map Answer.visited

theorem Alike.run (h : Alike f s s') (hf : Session.Faithful f) (ops : List Op) :
    AnswerAlike f (s.run ops) (s'.run ops) := by
  induction ops generalizing s s' with
  | nil => exact ⟨[], s, s', rfl, rfl, h⟩
  | cons op ops ih =>
    obtain ⟨a, t, t', hr, hr', ht⟩ := h.perform hf op
    rw [Shared.run, Shared.run, hr, hr']
    exact (ih ht).map (a :: ·)

/-- A visit that panics leaves what one that returns leaves, apart from a poisoned lock. -/
theorem visit_alike (s : Shared φ ρ σ) (uses : List Use) :
    Alike id (s.visit uses false).2 (s.visit uses true).2 := by
  have hself : Alike id s s := ⟨rfl, rfl, rfl, rfl⟩
  obtain ⟨b, hb⟩ := holding_eq (s := s) (visiting uses false)
  obtain ⟨b', hb'⟩ := holding_eq (s := s) (visiting uses true)
  have hleft : (visiting uses true s.current).2 = (visiting uses false s.current).2 := by
    unfold visiting
    split <;> rfl
  rw [visit, visit, hb, hb', hleft]
  exact hself.release _ _ _

end Alike

end Shared
end GuestRuntime
