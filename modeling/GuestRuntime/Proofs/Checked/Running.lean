import GuestRuntime.Proofs.Checked.Hosting
import GuestRuntime.Proofs.Mini.FirstExpression
import GuestRuntime.Proofs.Mini.Kept

/-!
Whole runs with their checks. A session's guest lives in a cell, its provider counts its failures
down and its openings up, and every operation is a step that may be trapped: by a panic of the
guest's, by a number out of range, by memory taken twice. None is, but by one panic: a code may ask
for a vector that no memory can hold, by its length alone. Whatever else is done in which order,
each operation answers, and answers what it answers without the checks:

        session    ── op ──▶  answer, session'
           │                             │
        guarded                       guarded
           ▼                             ▼
        session    ── op ──▶  answer, session'

Memory must be enough: for the objects there are at the end, and for every code. Main statement:
`run_untrapped`.
-/

namespace GuestRuntime.Checked

open Mini TheGuest Dialogue

/-- A session whose guest lives in a cell. -/
abbrev CellSession := Session Provider TheGuest Cell

/-- A session whose guest was put in a cell that nobody has taken. -/
def guarded (s : MiniSession) : CellSession :=
  { source := s.source, lifecycle := s.lifecycle, world := free s.world }

section Definitions

/-- Opens the guest, after so many failures. -/
def openGuest (p : Provider) : Act (Except Fault TheGuest × Provider) := do
  if 0 < p.failures then
    let failures ← Act.step (sub p.failures 1)
    return (.error Provider.loadFault, { p with failures })
  else
    change fun m => do return ((), { m with opens := ← add m.opens 1 })
    return (.ok .it, p)

variable (s : CellSession)

def start : Step (Except Fault Handle × CellSession) :=
  match s.lifecycle with
  | .running _ h => .ok (.ok h, s)
  | .shutDown => .ok (.error (.violation .restart), s)
  | .uninitialized =>
    match Terminated.ofTexts s.source.settings.arguments with
    | .error i => .ok (.error (.misconfigured (.zeroInArgument i)), s)
    | .ok arguments => do
      match ← openGuest s.source s.world with
      | ((.error f, source), world) => return (.error f, { s with source, world })
      | ((.ok g, source), world) =>
        let (o, world) ← exec (bringUp arguments) world
        let (h, s) := ({ s with source, world } : CellSession).enter g o
        return (.ok h, s)

def stop (fatal : Bool) : Step (Except Fault Unit × CellSession) :=
  match s.lifecycle with
  | .uninitialized => .ok (.error (.violation .stopBeforeStart), s)
  | .shutDown => .ok (.error (.violation .stopTwice), s.note .stoppedTwice)
  | .running _ ⟨_, .adopted⟩ => .ok (.error (.violation .stopForeign), s)
  | .running _ ⟨_, .owned⟩ => do
    let (_, world) ← exec (tearDown fatal) s.world
    return (.ok (), { s with lifecycle := .shutDown, world }.note (.shutDown fatal))

/-- Starts if need be and evaluates. -/
def startAndEvaluate (code : String) (env : Option Obj) :
    Step (Except Fault HostValue × CellSession) := do
  match ← start s with
  | (.error f, s) => return (.error f, s)
  | (.ok _, s) =>
    match s.lifecycle with
    | .running _ _ =>
      let (r, world) ← evaluate code env s.world
      return (r, { s with world })
    | _ => return (.error (.violation .notRunning), s)

/-- A switch of the guest. -/
def switchTo (f : Machine → Machine) : Step (Answer × CellSession) := do
  let (_, world) ← update f s.world
  return (.switched, { s with world })

/-- One operation. -/
def perform : Op → Step (Answer × CellSession)
  | .start => do
    let (r, s) ← start s
    return (.started r, s)
  | .evaluate code env => do
    let (r, s) ← startAndEvaluate s code env
    return (.evaluated r, s)
  | .stop fatal => do
    let (r, s) ← stop s fatal
    return (.stopped fatal r, s)
  | .leak => switchTo s fun m => { m with leaky := true }
  | .messages mode => switchTo s fun m => { m with mode }

/-- One more operation, behind what others answered. -/
def step (r : List Answer × CellSession) (op : Op) : Step (List Answer × CellSession) := do
  let (a, s) ← perform r.2 op
  return (r.1 ++ [a], s)

/-- Operations in order, and what they answered; a trap ends the run where it stands. -/
def run (ops : List Op) : Step (List Answer × CellSession) := ops.foldlM step ([], s)

end Definitions

/-- The code of an operation fits in memory. -/
def Fits : Op → Prop
  | .evaluate code _ => code.toList.length ≤ capacity
  | _ => True

variable {m : Machine} {h : Host} {s s' : MiniSession} {code : String} {env : Option Obj} {k : Nat}

/-- What `x` does in the cell is what `(r, s)` says. -/
theorem Serves.of_run {α : Type} {x : Act α} {d : Dialogue α} {w w' : World Machine} {a : α}
    {Q : α → World Machine → Prop} (hx : Serves x d w Q) (hrun : d.run it w = (.ok a, w'))
    (hm : w'.memory.heap.size ≤ capacity) : x (free w) = .ok (a, free w') ∧ Q a w' := by
  obtain ⟨heq, hQ⟩ := hx (by rw [hrun]; exact hm)
  exact ⟨by rw [heq, hrun]; rfl, hQ a w' hrun⟩

/-! ### Beginning and end -/

/-- A call of a dialogue without checks of its own, and what follows each answer. -/
theorem serves_exec {α : Type} {e : Entry} {held : List Nat} {k : e.Answer → Dialogue α}
    {w : World Machine} {Q : α → World Machine → Prop}
    (hr : w.memory.heap.size ≤ capacity → Ready w.memory e)
    (hk : ∀ a w', w.call it e = (.ok a, w') → Serves (exec (k a)) (k a) w' Q) :
    Serves (exec (.ask e held k)) (.ask e held k) w Q := by
  rcases hc : w.call it e with ⟨p | a, w'⟩
  · exact serves_ask_panic hc hr
  · exact serves_ask hc hr (hk a w' hc)

/-- A guest with room in the counters of its start can be started. -/
theorem serves_bringUp (arguments : List Bytes) (hb : m.boots < sizeTop)
    (hw : m.wirings < sizeTop) (hl : m.mainLoops < sizeTop) :
    Serves (exec (bringUp arguments)) (bringUp arguments) ⟨m, h⟩ fun _ _ => True := by
  simp only [bringUp, Dialogue.call, Dialogue.bind_eq, Dialogue.bind, Dialogue.pure_eq]
  refine serves_ask (a := m.initialized) rfl (fun _ => trivial) ?_
  dsimp only
  by_cases hi : m.initialized = true
  · rw [if_pos hi]
    exact (serves_remark (Q := fun _ _ => True) trivial).bind
      fun _ _ _ => serves_done (Q := fun _ _ => True) trivial
  have hcall : Machine.call (.boot arguments) m = Machine.answer 0 _ := if_neg hi
  have hboot : World.call it (.boot arguments) ⟨m, h⟩ =
      (.ok 0, ⟨{ m with
        initialized := true, boots := m.boots + 1,
        arguments := arguments.map Utf8.decodeLossy }.starting .boot, h⟩) := by
    rw [call_within, hcall]
    rfl
  rw [if_neg hi]
  refine serves_ask hboot (fun _ => hb) ?_
  refine serves_ask (a := ()) rfl (fun _ => trivial) ?_
  refine serves_ask (a := ()) rfl (fun _ => hw) ?_
  refine serves_ask (a := ()) rfl (fun _ => hl) ?_
  exact (serves_remark (Q := fun _ _ => True) trivial).bind
    fun _ _ _ => serves_done (Q := fun _ _ => True) trivial

theorem serves_tearDown (fatal : Bool) (w : World Machine) :
    Serves (exec (tearDown fatal)) (tearDown fatal) w fun _ _ => True := by
  simp only [tearDown, Dialogue.call, Dialogue.bind_eq, Dialogue.bind]
  iterate 6 refine serves_exec (fun _ => trivial) fun _ _ _ => ?_
  exact serves_done trivial

theorem openGuest_failing (settings : Settings) (n : Nat) (w : World Machine) :
    openGuest ⟨settings, n + 1⟩ (free w) =
      .ok ((.error Provider.loadFault, ⟨settings, n⟩), free w) := by
  rw [openGuest, if_pos (Nat.succ_pos n), act_bind_eq (step_eq (sub_eq (Nat.le_add_left 1 n)))]
  rfl

theorem openGuest_opened (settings : Settings) (ho : m.opens < sizeTop) :
    openGuest ⟨settings, 0⟩ (free ⟨m, h⟩) =
      .ok ((.ok it, ⟨settings, 0⟩), free ⟨m.opened, h⟩) := by
  have hchange : change (fun m => do return ((), { m with opens := ← add m.opens 1 }))
      (free ⟨m, h⟩) = .ok ((), free ⟨m.opened, h⟩) :=
    change_eq (by rw [add_eq ho]; rfl)
  rw [openGuest, if_neg (Nat.lt_irrefl 0), act_bind_eq hchange]
  rfl

/-- A session that was not started has a guest to which nothing was done. -/
def Untouched (s : MiniSession) : Prop :=
  s.lifecycle = .uninitialized → s.world.memory.record = {}

/-- A start with checks does what one without does. -/
theorem start_guarded (hs : Untouched s) (hm : s.world.memory.heap.size ≤ capacity) :
    ∃ r s', s.start = (.ok r, s') ∧ start (guarded s) = .ok (r, guarded s') := by
  obtain ⟨⟨settings, failures⟩, lifecycle, ⟨m, h⟩⟩ := s
  cases lifecycle with
  | running g hd => exact ⟨_, _, rfl, rfl⟩
  | shutDown => exact ⟨_, _, rfl, rfl⟩
  | uninitialized =>
    have hrecord : m.record = {} := hs rfl
    have hroom (n : Mini.Record → Nat) (hn : n {} = 0) : n m.record < sizeTop := by
      rw [hrecord, hn]
      decide
    have ho : m.opens < sizeTop := hroom Mini.Record.opens rfl
    have hb : m.boots < sizeTop := hroom Mini.Record.boots rfl
    have hw : m.wirings < sizeTop := hroom Mini.Record.wirings rfl
    have hl : m.mainLoops < sizeTop := hroom Mini.Record.mainLoops rfl
    unfold Session.start start
    simp only [Source.settings, guarded]
    cases Terminated.ofTexts settings.arguments with
    | error i => exact ⟨_, _, rfl, rfl⟩
    | ok arguments =>
      cases failures with
      | succ n =>
        refine ⟨_, _, rfl, ?_⟩
        rw [openGuest_failing]
        rfl
      | zero =>
        have hopen : Source.openGuest (⟨settings, 0⟩ : Provider) ⟨m, h⟩ =
            (.ok it, ⟨settings, 0⟩, ⟨m.opened, h⟩) := rfl
        have hserves := serves_bringUp (m := m.opened) (h := h) arguments hb hw hl
        simp only [hopen, Session.converse, openGuest_opened settings ho, ok_bind]
        by_cases hi : m.initialized = true
        · have hrun := run_bringUp_adopted arguments (m := m.opened) (h := h) hi
          rw [hrun, (hserves.of_run hrun hm).1]
          exact ⟨_, _, rfl, rfl⟩
        · have hi : m.initialized = false := by simpa using hi
          have hrun := run_bringUp_owned arguments (m := m.opened) (h := h) hi
          rw [hrun, (hserves.of_run hrun hm).1]
          exact ⟨_, _, rfl, rfl⟩

/-- A stop with checks does what one without does. -/
theorem stop_guarded (fatal : Bool) (hend : s.state = .running → s.world.memory.ended = none)
    (hm : s.world.memory.heap.size ≤ capacity) :
    ∃ r s', s.stop fatal = (.ok r, s') ∧ stop (guarded s) fatal = .ok (r, guarded s') := by
  obtain ⟨source, lifecycle, ⟨m, h⟩⟩ := s
  cases lifecycle with
  | uninitialized => exact ⟨_, _, rfl, rfl⟩
  | shutDown => exact ⟨_, _, rfl, rfl⟩
  | running g hd =>
    obtain ⟨n, o⟩ := hd
    cases o with
    | adopted => exact ⟨_, _, rfl, rfl⟩
    | owned =>
      have hrun := run_tearDown (m := m) (h := h) fatal (hend rfl)
      have hstop := ((serves_tearDown fatal ⟨m, h⟩).of_run hrun hm).1
      simp only [Session.stop, Session.converse, stop, guarded, hrun, hstop]
      exact ⟨_, _, rfl, rfl⟩

/-! ### One operation -/

/-- An operation that asks for more memory than there can be: the first expression of its code
does, with the globals as they are. -/
inductive Overasks (m : Machine) : Op → Prop
  | evaluate {code env e} (hcode : Begins code e) (he : PanicsIn m env e .capacityOverflow) :
      Overasks m (.evaluate code env)

theorem sound_started {r : Except Fault Handle} (h : Started s r s')
    (hs : Sound 0 s.world.memory) : Sound 0 s'.world.memory := by
  cases h <;> exact hs

theorem heap_started {r : Except Fault Handle} (h : Started s r s') :
    s'.world.memory.heap = s.world.memory.heap := by
  cases h <;> rfl

theorem evaluate_grows (s : MiniSession) (code : String) (env : Option Obj) :
    s.world.memory.heap.size ≤ (s.evaluate code env).2.world.memory.heap.size :=
  (evaluate_keeps s code env).size_le

/-- Whatever is done with a session, its objects stay. -/
theorem perform_grows (s : MiniSession) (op : Op) :
    s.world.memory.heap.size ≤ (Mini.perform s op).2.world.memory.heap.size :=
  (perform_keeps s op).size_le

/-- An evaluation with checks does what one without does, or is trapped as it asks for too much. -/
theorem evaluate_guarded (hcode : code.toList.length ≤ capacity) (hs : Untouched s)
    (hsound : Sound 0 s.world.memory)
    (hm : (s.evaluate code env).2.world.memory.heap.size ≤ capacity) :
    (∃ r s', s.evaluate code env = (.ok r, s') ∧
      startAndEvaluate (guarded s) code env = .ok (r, guarded s') ∧ Sound 0 s'.world.memory) ∨
    Overasks s.world.memory (.evaluate code env) ∧
      startAndEvaluate (guarded s) code env = .error (.panic .capacityOverflow) := by
  obtain ⟨r, s₁, hstart, hst⟩ := start_started s
  have hguarded (hm : s.world.memory.heap.size ≤ capacity) :
      start (guarded s) = .ok (r, guarded s₁) := by
    obtain ⟨r', s', hstart', hguarded⟩ := start_guarded hs hm
    cases hstart.symm.trans hstart'
    exact hguarded
  cases r with
  | error f =>
    have heval : s.evaluate code env = (.ok (.error f), s₁) := by rw [Session.evaluate, hstart]
    rw [heval, heap_started hst] at hm
    refine .inl ⟨_, _, heval, ?_, sound_started hst hsound⟩
    rw [startAndEvaluate, hguarded hm]
    rfl
  | ok hd =>
    have hm₁ : s.world.memory.heap.size ≤ capacity := (evaluate_grows s code env).trans hm
    obtain ⟨g, hrunning⟩ := exists_running hst
    obtain ⟨source, lifecycle, w₁⟩ := s₁
    obtain rfl : lifecycle = .running g hd := hrunning
    have heval : s.evaluate code env =
        (((Dialogue.evaluate code env).run it w₁).1,
          ⟨source, .running g hd, ((Dialogue.evaluate code env).run it w₁).2⟩) := by
      rw [Session.evaluate, hstart]
      rfl
    rw [heval] at hm
    obtain ⟨hx, hsound'⟩ := serves_evaluate hcode (sound_started hst hsound) hm
    rw [heval, startAndEvaluate, hguarded hm₁, ok_bind]
    rcases hrun : (Dialogue.evaluate code env).run it w₁ with ⟨p | a, w⟩ <;> rw [hrun] at hx
    · obtain ⟨w', hrun', -⟩ := run_evaluate w₁ code env
      have hp : Mini.answered w₁ code env = .error p :=
        checked_eq_error.mp (congrArg Prod.fst (hrun'.symm.trans hrun))
      obtain ⟨rfl, -⟩ := answered_eq_error.mp hp
      obtain ⟨e, hbegins, he⟩ := exists_panicsIn hp
      refine .inr ⟨.evaluate hbegins ((panicsIn_started hst).mp he), ?_⟩
      simp only [guarded, hx, lifted, error_bind]
    · refine .inl ⟨_, _, rfl, ?_, hsound' a w hrun⟩
      simp only [guarded, hx, lifted, ok_bind]
      rfl

/-- An operation with checks answers, and does what one without does, unless it asks for too
much. -/
theorem perform_guarded {op : Op} (hop : Fits op) (hs : Untouched s)
    (hend : s.state = .running → s.world.memory.ended = none) (hsound : Sound 0 s.world.memory)
    (hm : (Mini.perform s op).2.world.memory.heap.size ≤ capacity) :
    (∃ a s', Mini.perform s op = (.ok a, s') ∧ perform (guarded s) op = .ok (a, guarded s') ∧
      Sound 0 s'.world.memory) ∨
    Overasks s.world.memory op ∧ perform (guarded s) op = .error (.panic .capacityOverflow) := by
  have hm₀ := (perform_grows s op).trans hm
  cases op with
  | start =>
    obtain ⟨r, s', hstart, hguarded⟩ := start_guarded hs hm₀
    obtain ⟨r', s'', hstart', hst⟩ := start_started s
    cases hstart.symm.trans hstart'
    refine .inl ⟨.started r, s', ?_, ?_, sound_started hst hsound⟩
    · rw [Mini.perform, hstart]
      rfl
    · rw [perform, hguarded]
      rfl
  | evaluate code env =>
    rcases evaluate_guarded hop hs hsound hm with
      ⟨r, s', heval, hguarded, hsound'⟩ | ⟨hover, hguarded⟩
    · refine .inl ⟨.evaluated r, s', ?_, ?_, hsound'⟩
      · rw [Mini.perform, heval]
        rfl
      · rw [perform, hguarded]
        rfl
    · refine .inr ⟨hover, ?_⟩
      rw [perform, hguarded]
      rfl
  | stop fatal =>
    obtain ⟨r, s', hstop, hguarded⟩ := stop_guarded fatal hend hm₀
    obtain ⟨r', s'', hstop', hst⟩ := stop_stopped fatal hend
    cases hstop.symm.trans hstop'
    refine .inl ⟨.stopped fatal r, s', ?_, ?_, by cases hst <;> exact hsound⟩
    · rw [Mini.perform, hstop]
      rfl
    · rw [perform, hguarded]
      rfl
  | leak | messages mode =>
    refine .inl ⟨.switched, _, rfl, ?_, hsound⟩
    rw [perform, switchTo]
    rfl

/-! ### A whole run -/

theorem foldl_grows (r : Run) (ops : List Op) :
    r.session.world.memory.heap.size ≤
      (ops.foldl Run.step r).session.world.memory.heap.size := by
  induction ops generalizing r with
  | nil => exact Nat.le_refl _
  | cons op ops ih => exact (perform_grows r.session op).trans (ih (r.step op))

theorem untouched_of_lived {running : Bool} {r : Run} (h : Lived running r) :
    Untouched r.session := by
  intro hs
  cases h with
  | unstarted _ hm => exact hm
  | started hl | ended hl => cases hl.symm.trans hs

/-- With its checks a run goes on from `r` by these operations, and answers as it does without. -/
def Answers (r : Run) (ops : List Op) : Prop :=
  ∀ answers, r.answers = answers.map .ok →
    ∃ answers', (ops.foldl Run.step r).answers = answers'.map .ok ∧
      ops.foldlM step (answers, guarded r.session) =
        .ok (answers', guarded (ops.foldl Run.step r).session)

/-- It goes on up to an operation that asks for too much, and is trapped there. -/
def Breaks (r : Run) (ops : List Op) : Prop :=
  ∃ before op after, ops = before ++ op :: after ∧ Answers r before ∧
    Overasks (before.foldl Run.step r).session.world.memory op ∧
    ∀ answers, r.answers = answers.map .ok →
      ops.foldlM step (answers, guarded r.session) = .error (.panic .capacityOverflow)

theorem answers_nil (r : Run) : Answers r [] := fun answers hr => ⟨answers, hr, rfl⟩

section Cons

variable {r : Run} {op : Op} {ops : List Op} {a : Answer}
  (hperform : Mini.perform r.session op = (.ok a, s'))
  (hguarded : perform (guarded r.session) op = .ok (a, guarded s'))

include hperform hguarded

theorem step_guarded {answers : List Answer} (hr : r.answers = answers.map .ok) :
    (r.step op).answers = (answers ++ [a]).map .ok ∧
      step (answers, guarded r.session) op =
        .ok (answers ++ [a], guarded (r.step op).session) := by
  have hstep : r.step op = ⟨r.answers ++ [.ok a], s'⟩ := by rw [Run.step, hperform]
  rw [hstep, step, hguarded]
  exact ⟨by simp [hr], rfl⟩

theorem Answers.cons (h : Answers (r.step op) ops) : Answers r (op :: ops) := by
  intro answers hr
  obtain ⟨hr', hstep⟩ := step_guarded hperform hguarded hr
  rw [List.foldl_cons, List.foldlM_cons, hstep]
  exact h _ hr'

theorem Breaks.cons (h : Breaks (r.step op) ops) : Breaks r (op :: ops) := by
  obtain ⟨before, op', after, rfl, hbefore, hover, htrap⟩ := h
  refine ⟨op :: before, op', after, rfl, hbefore.cons hperform hguarded, hover,
    fun answers hr => ?_⟩
  obtain ⟨hr', hstep⟩ := step_guarded hperform hguarded hr
  rw [List.foldlM_cons, hstep]
  exact htrap _ hr'

end Cons

/-- A run goes on as the one without checks does, until it asks for too much. -/
theorem run_guarded {running : Bool} {r : Run} {ops : List Op} (hl : Lived running r)
    (hsound : Sound 0 r.session.world.memory) (hops : ∀ op ∈ ops, Fits op)
    (hm : (ops.foldl Run.step r).session.world.memory.heap.size ≤ capacity) :
    Answers r ops ∨ Breaks r ops := by
  induction ops generalizing r with
  | nil => exact .inl (answers_nil r)
  | cons op ops ih =>
    rcases perform_guarded (hops op List.mem_cons_self) (untouched_of_lived hl) hl.not_ended
      hsound ((foldl_grows (r.step op) ops).trans hm) with
      ⟨a, s', hperform, hguarded, hsound'⟩ | ⟨hover, hguarded⟩
    · have hnext : Sound 0 (r.step op).session.world.memory := by
        rw [Run.step, hperform]
        exact hsound'
      have hops' : ∀ op' ∈ ops, Fits op' := fun op' hop' => hops op' (List.mem_cons_of_mem op hop')
      exact (ih (hl.step op) hnext hops' hm).imp (.cons hperform hguarded) (.cons hperform hguarded)
    · refine .inr ⟨[], op, ops, rfl, answers_nil r, hover, fun answers _ => ?_⟩
      rw [List.foldlM_cons, step, hguarded]
      rfl

/-- Nothing is ever trapped but by memory that cannot be. Whatever the settings, whether the guest
was running before, however often opening it fails, and whatever is done in which order with
whatever code in whatever environment: if there is memory for the codes and for the objects that are
made, every operation answers, as it does without the checks, up to the end or up to the first
evaluation of an expression that asks for a vector larger than any memory; that evaluation is a
panic. -/
theorem run_untrapped (p : Provider) (running : Bool) (host : Host) (ops : List Op)
    (hops : ∀ op ∈ ops, Fits op)
    (hm : (Mini.run (newSession p running host) ops).session.world.memory.heap.size ≤ capacity) :
    (∃ answers,
      run (guarded (newSession p running host)) ops =
        .ok (answers, guarded (Mini.run (newSession p running host) ops).session) ∧
      (Mini.run (newSession p running host) ops).answers = answers.map .ok) ∨
    ∃ before op after, ops = before ++ op :: after ∧
      (∃ answers,
        run (guarded (newSession p running host)) before =
          .ok (answers, guarded (Mini.run (newSession p running host) before).session) ∧
        (Mini.run (newSession p running host) before).answers = answers.map .ok) ∧
      Overasks (Mini.run (newSession p running host) before).session.world.memory op ∧
      run (guarded (newSession p running host)) ops = .error (.panic .capacityOverflow) := by
  have hsound : Sound 0 (newSession p running host).world.memory := Nat.zero_le _
  have hnone : ([] : List (Except Panic Answer)) = ([] : List Answer).map .ok := rfl
  have hfirst {ops : List Op} (h : Answers ⟨[], newSession p running host⟩ ops) :
      ∃ answers, run (guarded (newSession p running host)) ops =
          .ok (answers, guarded (Mini.run (newSession p running host) ops).session) ∧
        (Mini.run (newSession p running host) ops).answers = answers.map .ok := by
    obtain ⟨answers, hanswers, hrun⟩ := h [] hnone
    exact ⟨answers, hrun, hanswers⟩
  rcases run_guarded (lived_newSession p running host) hsound hops hm with
    hanswers | ⟨before, op, after, hsplit, hbefore, hover, htrap⟩
  · exact .inl (hfirst hanswers)
  · exact .inr ⟨before, op, after, hsplit, hfirst hbefore, hover, htrap [] hnone⟩

/-- A code without an end, an environment that is no object, leaks, and a second stop. -/
def misuse : List Op :=
  [.start, .stop true, .evaluate "f(x" none, .evaluate "y" (some ⟨7⟩), .leak, .messages .fails,
    .evaluate "y" none, .stop true, .stop false]

/-- Misuse of a guest that cannot be opened at first. -/
theorem run_untrapped_misuse : ∃ answers,
    run (guarded (newSession { failures := 1 } false bareHost)) misuse =
      .ok (answers,
        guarded (Mini.run (newSession { failures := 1 } false bareHost) misuse).session) ∧
    (Mini.run (newSession { failures := 1 } false bareHost) misuse).answers = answers.map .ok := by
  have hok : (run (guarded (newSession { failures := 1 } false bareHost)) misuse).isOk = true := by
    decide +kernel
  have hfits : ∀ op ∈ misuse, Fits op := by simp [misuse, Fits, capacity]
  refine (run_untrapped _ _ _ _ hfits (by decide +kernel)).resolve_right ?_
  rintro ⟨before, op, after, -, -, -, htrap⟩
  rw [htrap] at hok
  cases hok

/-- A vector of as many bytes as no memory holds is a panic, where a length that is no length is an
error of the code's. -/
theorem run_trapped_raw :
    run (guarded (newSession {} false bareHost)) [.evaluate "raw(1/0)" none] =
      .error (.panic .capacityOverflow) := by
  have hstuck : (run (guarded (newSession {} false bareHost))
      [.evaluate "raw(1/0)" none]).isOk = false := by decide +kernel
  have hfits : ∀ op ∈ [Op.evaluate "raw(1/0)" none], Fits op := by simp [Fits, capacity]
  rcases run_guarded (lived_newSession {} false bareHost) (Nat.zero_le _) hfits (by decide +kernel)
    with hanswers | ⟨_, _, _, _, _, _, htrap⟩
  · obtain ⟨answers, -, hrun⟩ := hanswers [] rfl
    rw [run, hrun] at hstuck
    cases hstuck
  · exact htrap [] rfl

end GuestRuntime.Checked
