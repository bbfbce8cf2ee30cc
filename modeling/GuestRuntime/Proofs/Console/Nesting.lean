import GuestRuntime.Fleet
import GuestRuntime.Proofs.Console.Capture
import GuestRuntime.Proofs.Library.Total
import GuestRuntime.Proofs.Session.Voice

/-!
Captures inside captures. On one thread the host makes callbacks, evaluates codes in any of its
sessions and captures the console text of such activities, in any nesting:

        capture ─┬─ "a" ──────────────▶ "a", "b"
                 ├─ capture ── "x" ───▶ "x"
                 └─ "b"

A capture gives the texts of its own body that no capture inside it took, and takes them from all
other sinks; when it is over, the console is as if nothing had been said. It is cut short only if a
guest panics in it. Main statement: `act_capture`.
-/

namespace GuestRuntime.Nesting

open Library Mini

/-- A session of its own: with a mini guest, whose memory is the session's, or with a guest in one
of the libraries of the process. -/
inductive Tenant
  | mini (m : Member Provider TheGuest Machine)
  | library (source : Locator) (lifecycle : Lifecycle Loaded)

/-- A process as one thread sees it: its shared session and any others. -/
structure Process where
  shared : SharedLibrary
  tenants : List Tenant := []

/-- A session of the process. -/
inductive Which
  | shared
  | tenant (i : Nat)

namespace Tenant

variable (t : Tenant) (code : String) (env : Option Obj) (w : World Disk)

def evaluate : Except Panic (Except Fault HostValue) × Tenant × World Disk :=
  match t with
  | .mini m =>
    let (r, s) := (Fleet.join m w.host).evaluate code env
    (r, .mini (Fleet.leave s), { w with host := s.world.host })
  | .library source lifecycle =>
    let (r, s) := (⟨source, lifecycle, w⟩ : LibrarySession).evaluate code env
    (r, .library s.source s.lifecycle, s.world)

/-- The callbacks that the evaluation makes. -/
def callbacks : List Callback :=
  match t with
  | .mini m => (Fleet.join m w.host).evaluateCallbacks code env
  | .library source lifecycle =>
    (⟨source, lifecycle, w⟩ : LibrarySession).evaluateCallbacks code env

end Tenant

namespace Process

variable (p : Process)

def host : Host := p.shared.world.host

def withOutput (o : Output) : Process :=
  { p with
    shared := { p.shared with
      world := { p.shared.world with host := { p.host with output := o } } } }

/-- An evaluation in one of the sessions, or nothing if there is no such session. -/
def evaluate (which : Which) (code : String) (env : Option Obj) :
    Except Panic (Option (Except Fault HostValue)) × Process :=
  match which with
  | .shared =>
    let (r, shared) := p.shared.evaluate code env
    (r.map some, { p with shared })
  | .tenant i =>
    match p.tenants[i]? with
    | none => (.ok none, p)
    | some t =>
      let (r, t, world) := t.evaluate code env p.shared.world
      (r.map some, ⟨{ p.shared with world }, p.tenants.set i t⟩)

/-- The callbacks that the evaluation makes. -/
def callbacks (which : Which) (code : String) (env : Option Obj) : List Callback :=
  match which with
  | .shared => p.shared.current.evaluateCallbacks code env
  | .tenant i =>
    match p.tenants[i]? with
    | none => []
    | some t => t.callbacks code env p.shared.world

end Process

/-- What is done on the thread. -/
inductive Act
  | callback (c : Callback)
  | evaluate (which : Which) (code : String) (env : Option Obj)
  | capture (body : List Act)

inductive Answer
  | handed
  | evaluated (r : Option (Except Fault HostValue))
  | captured (text : String) (answers : List Answer)

mutual

/-- One activity. A guest's panic would leave a capture's buffer where it is. -/
def act : Act → Process → Except Panic Answer × Process
  | .callback c, p => (.ok .handed, p.withOutput (p.host.output.callback c))
  | .evaluate which code env, p =>
    let (r, p) := p.evaluate which code env
    (r.map .evaluated, p)
  | .capture body, p =>
    let (before, o) := p.host.output.openCapture
    match actAll body (p.withOutput o) with
    | (.error e, p) => (.error e, p)
    | (.ok answers, p) =>
      let (held, o) := p.host.output.closeCapture before
      (.ok (.captured (Utf8.decodeLossy held) answers), p.withOutput o)

/-- Activities in order. -/
def actAll : List Act → Process → Except Panic (List Answer) × Process
  | [], p => (.ok [], p)
  | a :: as, p =>
    match act a p with
    | (.error e, p) => (.error e, p)
    | (.ok x, p) =>
      let (r, p) := actAll as p
      (r.map (x :: ·), p)

end

/-- Nothing of what happened between the two processes was heard: every sink holds what it held,
the thread's own among them, and no recorder saw anything. So what is said afterwards goes where it
would have gone before. -/
structure Unheard (p p' : Process) : Prop where
  shared : p'.host.output.shared = p.host.output.shared
  own : p'.host.output.own = p.host.output.own
  events : p'.host.output.events = p.host.output.events
  later (cs : List Callback) : (p'.host.callbacks cs).console = (p.host.callbacks cs).console

/-- The process while a capture listens. -/
def Process.listening (p : Process) : Process :=
  p.withOutput (p.host.output.withOwn (some (.buffer [])))

mutual

/-- `Does p a x texts p'`: the activity leads from `p` to `p'` with the answer `x`, and `texts` is
what it says outside captures of its own. -/
inductive Does : Process → Act → Answer → List String → Process → Prop
  | callback {p c} :
    Does p (.callback c) .handed ([c].filterMap Callback.text?)
      (p.withOutput (p.host.output.callback c))
  | evaluate {p which code env r p'} (heval : p.evaluate which code env = (.ok r, p'))
      (hconsole : p'.host.console = (p.host.callbacks (p.callbacks which code env)).console) :
    Does p (.evaluate which code env) (.evaluated r)
      ((p.callbacks which code env).filterMap Callback.text?) p'
  | capture {p body answers texts p' p''} (hbody : DoesAll p.listening body answers texts p')
      (hend : p'' = p'.withOutput (p'.host.output.withOwn p.host.output.own))
      (hunheard : Unheard p p'') :
    Does p (.capture body) (.captured (String.join texts) answers) [] p''

inductive DoesAll : Process → List Act → List Answer → List String → Process → Prop
  | nil {p} : DoesAll p [] [] [] p
  | cons {p a x texts p' as xs texts' p''} (ha : Does p a x texts p')
      (has : DoesAll p' as xs texts' p'') :
    DoesAll p (a :: as) (x :: xs) (texts ++ texts') p''

end

mutual

/-- `Breaks p a p'`: a mini guest runs out of memory in the activity, which leaves the process as
`p'`. -/
inductive Breaks : Process → Act → Process → Prop
  | evaluate {p i m code env p'} (hmini : p.tenants[i]? = some (.mini m))
      (heval : p.evaluate (.tenant i) code env = (.error .capacityOverflow, p')) :
    Breaks p (.evaluate (.tenant i) code env) p'
  | capture {p body p'} (hbody : BreaksAll p.listening body p') : Breaks p (.capture body) p'

inductive BreaksAll : Process → List Act → Process → Prop
  | head {p a as p'} (ha : Breaks p a p') : BreaksAll p (a :: as) p'
  | tail {p a x texts p' as p''} (ha : Does p a x texts p') (has : BreaksAll p' as p'') :
    BreaksAll p (a :: as) p''

end

/-! ### How evaluations end -/

/-- A mini guest panics over a code only if it runs out of memory. -/
theorem evaluate_mini {s s' : MiniSession} {code : String} {env : Option Obj} {e : Panic}
    (h : s.evaluate code env = (.error e, s')) : e = .capacityOverflow := by
  rcases evaluate_cases s code env with ⟨f, s₁, -, heval, -⟩ | ⟨hd, s₁, g, -, hl, heval, -⟩
  · cases heval.symm.trans h
  · obtain ⟨w, hrun, -⟩ := evaluate_running hl code env
    have hchecked := congrArg Prod.fst (hrun.symm.trans (heval.symm.trans h))
    exact (answered_eq_error.mp (checked_eq_error.mp hchecked)).1

/-- After an evaluation in a session of its own the console is what its callbacks make of it, and
only a mini guest panics. -/
theorem heard_tenant (t : Tenant) (code : String) (env : Option Obj) (w : World Disk) :
    ∃ out t' w', t.evaluate code env w = (out, t', w') ∧
      w'.host.console = (w.host.callbacks (t.callbacks code env w)).console ∧
      ∀ e, out = .error e → e = .capacityOverflow ∧ ∃ m, t = .mini m := by
  cases t with
  | mini m =>
    rcases heval : (Fleet.join m w.host).evaluate code env with ⟨out, s⟩
    have hconsole := (Fleet.join m w.host).console_evaluate code env
    rw [heval] at hconsole
    refine ⟨out, .mini (Fleet.leave s), { w with host := s.world.host },
      by simp only [Tenant.evaluate, heval], hconsole, ?_⟩
    rintro e rfl
    exact ⟨evaluate_mini heval, m, rfl⟩
  | library source lifecycle =>
    let s : LibrarySession := ⟨source, lifecycle, w⟩
    obtain ⟨r, s', heval⟩ := evaluate_answers s code env
    have hconsole := s.console_evaluate code env
    rw [heval] at hconsole
    exact ⟨.ok r, .library s'.source s'.lifecycle, s'.world,
      by simp only [Tenant.evaluate, s, heval], hconsole, nofun⟩

/-- So it is after an evaluation in any of the sessions. -/
theorem heard (p : Process) (which : Which) (code : String) (env : Option Obj) :
    ∃ out p', p.evaluate which code env = (out, p') ∧
      p'.host.console = (p.host.callbacks (p.callbacks which code env)).console ∧
      ∀ e, out = .error e → e = .capacityOverflow ∧
        ∃ i m, which = .tenant i ∧ p.tenants[i]? = some (.mini m) := by
  cases which with
  | shared =>
    obtain ⟨r, s, heval⟩ := shared_evaluate_answers p.shared code env
    have hconsole := p.shared.console_evaluate code env
    rw [heval] at hconsole
    exact ⟨.ok (some r), { p with shared := s },
      by simp only [Process.evaluate, heval, Except.map], hconsole, nofun⟩
  | tenant i =>
    rcases ht : p.tenants[i]? with _ | t
    · exact ⟨.ok none, p, by simp only [Process.evaluate, ht],
        by simp only [Process.callbacks, ht]; rfl, nofun⟩
    · obtain ⟨out, t', w, heval, hconsole, honly⟩ := heard_tenant t code env p.shared.world
      refine ⟨out.map some, ⟨{ p.shared with world := w }, p.tenants.set i t'⟩, ?_, ?_, ?_⟩
      · simp only [Process.evaluate, ht, heval]
      · simp only [Process.callbacks, ht]
        exact hconsole
      · intro e he
        cases out with
        | ok r => cases he
        | error e' =>
          cases he
          obtain ⟨hover, m, rfl⟩ := honly e rfl
          exact ⟨hover, i, m, rfl, ht⟩

/-! ### What a capture takes -/

variable {p p' p'' : Process} {held : Bytes} {texts texts' : List String}

/-- While a buffer is the thread's own sink, it takes the texts and nothing else changes. -/
def Takes (p p' : Process) (held : Bytes) (texts : List String) : Prop :=
  p'.host.console =
    p.host.console.withOwn (some (.buffer (held ++ Utf8.encode (String.join texts))))

theorem takes_callbacks (hown : p.host.output.own = some (.buffer held)) {cs : List Callback}
    (hconsole : p'.host.console = (p.host.callbacks cs).console) :
    Takes p p' held (cs.filterMap Callback.text?) := by
  rw [Takes, hconsole, ← Output.spoken_eq]
  exact congrArg Output.console (Output.callbacks_of_buffer hown cs)

theorem Takes.own (h : Takes p p' held texts) : p'.host.output.own =
    some (.buffer (held ++ Utf8.encode (String.join texts))) :=
  congrArg Output.own h

/-- The shared sink and the recorders hear nothing. -/
def Muted (p p' : Process) : Prop :=
  p'.host.output.shared = p.host.output.shared ∧ p'.host.output.events = p.host.output.events

theorem Takes.muted (h : Takes p p' held texts) : Muted p p' := by
  have hconsole : p'.host.output.console = (p.host.output.withOwn
      (some (.buffer (held ++ Utf8.encode (String.join texts))))).console := h
  obtain ⟨hshared, -, hevents⟩ := Output.console_eq_iff.mp hconsole
  exact ⟨hshared, hevents⟩

theorem Muted.trans (h : Muted p p') (h' : Muted p' p'') : Muted p p'' :=
  ⟨h'.1.trans h.1, h'.2.trans h.2⟩

theorem Takes.trans (h : Takes p p' held texts)
    (h' : Takes p' p'' (held ++ Utf8.encode (String.join texts)) texts') :
    Takes p p'' held (texts ++ texts') := by
  rw [Takes] at h'
  rw [Takes, h', h, String.join_append, Utf8.encode_append, List.append_assoc]
  rfl

theorem Unheard.takes (h : Unheard p p') (hown : p.host.output.own = some (.buffer held)) :
    Takes p p' held [] := by
  let still : Option Sink := some (.buffer (held ++ Utf8.encode (String.join [])))
  have hstill : p'.host.output.own = still := by
    rw [h.own, hown]
    exact congrArg (fun b => some (Sink.buffer b)) (List.append_nil held).symm
  have hconsole : p'.host.output.console = (p.host.output.withOwn still).console :=
    Output.console_eq_iff.mpr ⟨h.shared, hstill, h.events⟩
  exact hconsole

/-- A capture is over when its body is, and puts back what it found. -/
theorem act_capture_of_body {body : List Act} {answers : List Answer}
    (hrun : actAll body p.listening = (.ok answers, p'))
    (hbody : DoesAll p.listening body answers texts p') (htakes : Takes p.listening p' [] texts) :
    ∃ p'', act (.capture body) p = (.ok (.captured (String.join texts) answers), p'') ∧
      Does p (.capture body) (.captured (String.join texts) answers) [] p'' ∧ Unheard p p'' := by
  have hconsole : (p'.withOutput (p'.host.output.withOwn p.host.output.own)).host.console =
      p.host.console :=
    congrArg (Output.withOwn · p.host.output.own) htakes
  obtain ⟨hshared, hown, hevents⟩ := Output.console_eq_iff.mp hconsole
  have hunheard : Unheard p (p'.withOutput (p'.host.output.withOwn p.host.output.own)) :=
    ⟨hshared, hown, hevents, fun cs => Host.console_callbacks cs hconsole⟩
  refine ⟨_, ?_, .capture hbody rfl hunheard, hunheard⟩
  have hlistening : p.withOutput p.host.output.openCapture.2 = p.listening := rfl
  have hheld : p'.host.output.own = some (.buffer (Utf8.encode (String.join texts))) := htakes.own
  have hclose : p'.host.output.closeCapture p.host.output.openCapture.1 =
      (Utf8.encode (String.join texts), p'.host.output.withOwn p.host.output.own) := by
    rw [Output.closeCapture, hheld]
    rfl
  simp only [act, hlistening, hrun, hclose, Utf8.decodeLossy_encode]

/-- A capture whose body is cut short is cut short itself, and its buffer stays. -/
theorem act_capture_of_break {body : List Act} {e : Panic}
    (hrun : actAll body p.listening = (.error e, p')) :
    act (.capture body) p = (.error e, p') := by
  have hlistening : p.withOutput p.host.output.openCapture.2 = p.listening := rfl
  simp only [act, hlistening, hrun]

mutual

theorem act_takes (a : Act) (p : Process) (held : Bytes)
    (hown : p.host.output.own = some (.buffer held)) :
    (∃ x texts p', act a p = (.ok x, p') ∧ Does p a x texts p' ∧ Takes p p' held texts) ∨
      ∃ p', act a p = (.error .capacityOverflow, p') ∧ Breaks p a p' ∧ Muted p p' := by
  cases a with
  | callback c =>
    have htakes : Takes p (p.withOutput (p.host.output.callback c)) held
        ([c].filterMap Callback.text?) := takes_callbacks hown rfl
    exact .inl ⟨.handed, _, _, by rw [act], .callback, htakes⟩
  | evaluate which code env =>
    obtain ⟨out, p', heval, hconsole, honly⟩ := heard p which code env
    have htakes := takes_callbacks hown hconsole
    cases out with
    | ok r =>
      refine .inl ⟨.evaluated r, _, p', ?_, .evaluate heval hconsole, htakes⟩
      simp only [act, heval, Except.map]
    | error e =>
      obtain ⟨rfl, i, m, rfl, hmini⟩ := honly e rfl
      refine .inr ⟨p', ?_, .evaluate hmini heval, htakes.muted⟩
      simp only [act, heval, Except.map]
  | capture body =>
    rcases actAll_takes body p.listening [] rfl with
      ⟨answers, texts, p', hrun, hbody, htakes⟩ | ⟨p', hrun, hbody, hmuted⟩
    · obtain ⟨p'', hact, hdoes, hunheard⟩ := act_capture_of_body hrun hbody htakes
      exact .inl ⟨_, [], p'', hact, hdoes, hunheard.takes hown⟩
    · exact .inr ⟨p', act_capture_of_break hrun, .capture hbody, hmuted⟩

theorem actAll_takes (as : List Act) (p : Process) (held : Bytes)
    (hown : p.host.output.own = some (.buffer held)) :
    (∃ xs texts p', actAll as p = (.ok xs, p') ∧ DoesAll p as xs texts p' ∧
        Takes p p' held texts) ∨
      ∃ p', actAll as p = (.error .capacityOverflow, p') ∧ BreaksAll p as p' ∧ Muted p p' := by
  cases as with
  | nil =>
    have htakes : Takes p p held (([] : List Callback).filterMap Callback.text?) :=
      takes_callbacks hown rfl
    exact .inl ⟨[], [], p, by rw [actAll], .nil, htakes⟩
  | cons a as =>
    rcases act_takes a p held hown with
      ⟨x, texts, p', hact, hdoes, htakes⟩ | ⟨p', hact, hbreaks, hmuted⟩
    · rcases actAll_takes as p' _ htakes.own with
        ⟨xs, texts', p'', hall, hdoesAll, htakes'⟩ | ⟨p'', hall, hbreaks, hmuted⟩
      · refine .inl ⟨x :: xs, texts ++ texts', p'', ?_, .cons hdoes hdoesAll, htakes.trans htakes'⟩
        simp only [actAll, hact, hall, Except.map]
      · refine .inr ⟨p'', ?_, .tail hdoes hbreaks, htakes.muted.trans hmuted⟩
        simp only [actAll, hact, hall, Except.map]
    · refine .inr ⟨p', ?_, .head hbreaks, hmuted⟩
      simp only [actAll, hact]

end

/-- A capture inside a capture, each with a text of its own. -/
example (p : Process) :
    (act (.capture [.callback (.message (some [97])),
      .capture [.callback (.message (some [120]))], .callback (.message (some [98]))]) p).1 =
      .ok (.captured "ab" [.handed, .captured "x" [.handed], .handed]) := by
  rfl

end GuestRuntime.Nesting
