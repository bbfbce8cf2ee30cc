import GuestRuntime.Proofs.Console.Capture
import GuestRuntime.Proofs.Mini.Explained
import GuestRuntime.Proofs.Mini.Unasked

/-!
What one evaluation can tell the next. Its objects, its roots and its last message stay in the
guest, but only the globals are read by a code that does not ask for the message:

        s ── code₁ ──▶ s₁ ── code₂ ──▶ an answer, globals, console text
        s ──────────────── code₂ ──▶ the same

So a code that binds no name has no influence on any such code after it. Main statement:
`evaluate_channel`.
-/

namespace GuestRuntime.Mini

open Dialogue TheGuest Machine

/-- The first expression of the code, if there is one, does not ask for the last message. -/
def AsksNothing (code : String) : Prop := ∀ e, Begins code e → e.Avoids "geterrmessage"

/-- The code comes to no value, or its first expression is no assignment. -/
def BindsNothing (s : MiniSession) (code : String) (env : Option Obj) : Prop :=
  (∀ v, (s.evaluate code env).1 ≠ .ok (.ok v)) ∨ ∀ x e, ¬ Begins code (.assign x e)

/-- The same answer or panic from two guests, but that an object with the same contents may stand
elsewhere in each. -/
inductive SameContent (m m' : Machine) :
    Except Panic (Except Fault HostValue) → Except Panic (Except Fault HostValue) → Prop
  | panic (p : Panic) : SameContent m m' (.error p) (.error p)
  | fault (f : Fault) : SameContent m m' (.ok (.error f)) (.ok (.error f))
  | text (t : String) : SameContent m m' (.ok (.ok (.text t))) (.ok (.ok (.text t)))
  | bytes (b : Bytes) : SameContent m m' (.ok (.ok (.bytes b))) (.ok (.ok (.bytes b)))
  | object {x x' v} (hx : m.object? x = some v) (hx' : m'.object? x' = some v) :
    SameContent m m' (.ok (.ok (.object x))) (.ok (.ok (.object x')))

/-- Nothing tells the evaluation of a code in one session from that in another. -/
structure EvaluatesAlike (s s' : MiniSession) (code : String) (env : Option Obj) : Prop where
  /-- The answers and the globals afterwards are the same, and so is what the console is given. -/
  same : ∃ out out' t t' cs, s.evaluate code env = (out, t) ∧ s'.evaluate code env = (out', t') ∧
    SameContent t.world.memory t'.world.memory out out' ∧
    t.world.memory.globals = t'.world.memory.globals ∧
    t.world.host.console = (s.world.host.callbacks cs).console ∧
    t'.world.host.console = (s'.world.host.callbacks cs).console
  captured : (Session.captured (Session.evaluate · code env) s).1 =
    (Session.captured (Session.evaluate · code env) s').1

/-- Two worlds that are the same to whoever does not ask for the last message. -/
structure Like (w w' : World Machine) : Prop where
  globals : w.memory.globals = w'.memory.globals
  mode : w.memory.mode = w'.memory.mode
  wired : w.memory.wired = w'.memory.wired

variable {s s' : MiniSession} {code : String} {env : Option Obj} {w w' : World Machine}
  {m m' : Machine}

/-! ### What an evaluation gives the console -/

/-- The callbacks that the evaluation of a code makes. -/
def written (w : World Machine) (code : String) (env : Option Obj) : List Callback :=
  match outcome? w code env with
  | none => []
  | some (.ok _, t) => t.printed.flatMap (w.memory.printing 0)
  | some (.error why, t) =>
    match why.panic? with
    | some _ => t.printed.flatMap (w.memory.printing 0)
    | none =>
      t.printed.flatMap (w.memory.printing 0) ++ w.memory.printing 1 (errorText why) ++
        if w.memory.mode = .fails then w.memory.printing 1 (errorText .noMessage) else []

/-- An explanation that fails is printed like any failure. -/
theorem host_afterExplanation (w : World Machine) :
    (afterExplanation w).host = w.host.callbacks
      (if w.memory.mode = .fails then w.memory.printing 1 (errorText .noMessage) else []) := by
  unfold afterExplanation
  cases w.memory.mode <;> rfl

theorem host_afterCode (w : World Machine) (code : String) (env : Option Obj) :
    (afterCode w code env).host = w.host.callbacks (written w code env) := by
  unfold afterCode written
  rcases outcome? w code env with _ | ⟨why | v, t⟩
  · rfl
  · dsimp only
    cases why.panic? with
    | some p => rfl
    | none =>
      dsimp only
      rw [host_afterExplanation, Host.callbacks_append]
      rfl
  · rfl

/-! ### Worlds that are alike -/

theorem Like.printing_eq (h : Like w w') : w.memory.printing = w'.memory.printing := by
  funext kind text
  rw [printing, printing, h.wired]

/-- The outcome of a code is the same, apart from the last message that was there before. -/
theorem Like.outcome?_eq (h : Like w w') (hcode : AsksNothing code) :
    outcome? w' code env =
      (outcome? w code env).map fun p => (p.1, p.2.telling w'.memory.lastError) := by
  unfold outcome?
  cases hf : first? code with
  | none => rfl
  | some e =>
    have hs : (⟨w'.memory.globals, w'.memory.lastError, w'.memory.mode, []⟩ : Scratch) =
        Scratch.telling ⟨w.memory.globals, w.memory.lastError, w.memory.mode, []⟩
          w'.memory.lastError := by
      rw [Scratch.telling, h.globals, h.mode]
    simp only [Option.map_some, outcomeIn, hs]
    split
    · exact congrArg some (unasked_eval (hcode e (begins_iff.mpr hf)) _ _)
    · rfl

theorem Like.written_eq (h : Like w w') (hcode : AsksNothing code) :
    written w code env = written w' code env := by
  unfold written
  rw [h.outcome?_eq hcode, h.printing_eq, h.mode]
  rcases outcome? w code env with _ | ⟨why | v, t⟩ <;> rfl

theorem Like.globals_afterCode_eq (h : Like w w') (hcode : AsksNothing code) :
    (afterCode w code env).memory.globals = (afterCode w' code env).memory.globals := by
  unfold afterCode
  rw [h.outcome?_eq hcode]
  rcases outcome? w code env with _ | ⟨why | v, t⟩
  · exact h.globals
  · dsimp only [Option.map_some]
    cases why.panic? with
    | some p => rfl
    | none =>
      simp only [globals_afterExplanation]
      rfl
  · rfl

theorem sameContent_marshaled {x x' : Obj} {v : Value} (hx : m.object? x = some v)
    (hx' : m'.object? x' = some v) :
    SameContent m m' (.ok (.ok (v.marshaled x))) (.ok (.ok (v.marshaled x'))) := by
  unfold Value.marshaled
  split
  case h_3 => exact .bytes _
  case h_7 => exact .object hx hx'
  all_goals exact .text _

/-- The answers to a code are the same, if its value stands where each says. -/
theorem Like.answered_same {v v' : World Machine} (h : Like w w') (hcode : AsksNothing code)
    (hv : Stands w v code env) (hv' : Stands w' v' code env) :
    SameContent v.memory v'.memory (answered w code env) (answered w' code env) := by
  have ho : outcome? w' code env = _ := h.outcome?_eq hcode
  unfold answered
  rcases hout : outcome? w code env with _ | ⟨why | u, t⟩
  · rw [ho, hout]
    exact .fault _
  · rw [ho, hout]
    simp only [Option.map_some, explanation_afterFailure, h.mode]
    cases why.panic? with
    | some p => exact .panic p
    | none => exact .fault _
  · rw [hout] at ho
    rw [ho]
    exact sameContent_marshaled (hv u t hout) (hv' u _ ho)

/-! ### Sessions -/

/-- Two sessions that do not leak, in worlds that are alike. -/
structure RunAlike (s s' : MiniSession) : Prop where
  running : s.state = .running
  running' : s'.state = .running
  tight : s.world.memory.leaky = false
  tight' : s'.world.memory.leaky = false
  like : Like s.world s'.world

theorem exists_guest (hs : s.state = .running) : ∃ g h, s.lifecycle = .running g h := by
  cases hl : s.lifecycle with
  | running g h => exact ⟨g, h, rfl⟩
  | uninitialized | shutDown => simp [Session.state, hl, Lifecycle.state] at hs

theorem RunAlike.evaluate (h : RunAlike s s') (hcode : AsksNothing code) :
    ∃ out out' t t' cs, s.evaluate code env = (out, t) ∧ s'.evaluate code env = (out', t') ∧
      SameContent t.world.memory t'.world.memory out out' ∧
      t.world.memory.globals = t'.world.memory.globals ∧
      t.world.host.console = (s.world.host.callbacks cs).console ∧
      t'.world.host.console = (s'.world.host.callbacks cs).console := by
  obtain ⟨g, hd, hs⟩ := exists_guest h.running
  obtain ⟨g', hd', hs'⟩ := exists_guest h.running'
  obtain ⟨v, heval, -, hvis, hv⟩ := evaluate_answered hs h.tight code env
  obtain ⟨v', heval', -, hvis', hv'⟩ := evaluate_answered hs' h.tight' code env
  refine ⟨_, _, _, _, written s.world code env, heval, heval', h.like.answered_same hcode hv hv',
    ?_, ?_, ?_⟩
  · calc v.memory.globals = (afterCode s.world code env).memory.globals :=
          congrArg Visible.globals hvis
      _ = (afterCode s'.world code env).memory.globals := h.like.globals_afterCode_eq hcode
      _ = v'.memory.globals := (congrArg Visible.globals hvis').symm
  · exact (congrArg Visible.console hvis).trans
      (congrArg Host.console (host_afterCode s.world code env))
  · rw [h.like.written_eq hcode]
    exact (congrArg Visible.console hvis').trans
      (congrArg Host.console (host_afterCode s'.world code env))

/-- A capture changes none of what makes sessions alike. -/
theorem RunAlike.listening (h : RunAlike s s') : RunAlike s.listening s'.listening :=
  ⟨h.running, h.running', h.tight, h.tight', ⟨h.like.globals, h.like.mode, h.like.wired⟩⟩

theorem own_of_console {h h' : Host} (hh : h.console = h'.console) :
    h.output.own = h'.output.own :=
  (Output.console_eq_iff.mp hh).2.1

/-- What a capture gives while the console is given these callbacks. -/
theorem captured_of_console {t : MiniSession} {out : Except Panic (Except Fault HostValue)}
    {cs : List Callback} (heval : s.listening.evaluate code env = (out, t))
    (hconsole : t.world.host.console = (s.listening.world.host.callbacks cs).console) :
    (Session.captured (Session.evaluate · code env) s).1 =
      Utf8.decodeLossy (Output.spoken cs) := by
  have hspoken : (s.listening.world.host.callbacks cs).output.own =
      some (.buffer ([] ++ Output.spoken cs)) := Host.own_callbacks rfl cs
  have hown : t.world.host.output.own = some (.buffer (Output.spoken cs)) :=
    (own_of_console hconsole).trans hspoken
  rw [Session.captured_eq heval hown]

theorem RunAlike.evaluatesAlike (h : RunAlike s s') (hcode : AsksNothing code) :
    EvaluatesAlike s s' code env := by
  refine ⟨h.evaluate hcode, ?_⟩
  obtain ⟨out, out', t, t', cs, heval, heval', -, -, hconsole, hconsole'⟩ :=
    h.listening.evaluate hcode
  rw [captured_of_console heval hconsole, captured_of_console heval' hconsole']

/-- A code that comes to no value, or binds no name by its form, binds none. -/
theorem BindsNothing.globals_eq {g : TheGuest} {hd : Handle} (h : BindsNothing s code env)
    (hs : s.lifecycle = .running g hd) (hl : s.world.memory.leaky = false) :
    (afterCode s.world code env).memory.globals = s.world.memory.globals := by
  rcases globals_afterCode s.world code env with ⟨-, hg⟩ | ⟨e, r, t, hbegins, ho, hg, hleaves, -⟩
  · exact hg
  · rw [hg]
    generalize t.globals = g' at hleaves
    cases hleaves with
    | same => rfl
    | @bound x rhs v he =>
      rcases h with hvalue | hno
      · obtain ⟨w, heval, -⟩ := evaluate_answered hs hl code env
        rw [heval, answered, ho] at hvalue
        exact absurd rfl (hvalue _)
      · exact absurd (he ▸ hbegins) (hno x rhs)

/-- After a code that binds no name, whatever is evaluated without asking for the last message is
evaluated as if that code had never been. -/
theorem evaluate_channel {g : TheGuest} {hd : Handle} {code₁ code₂ : String}
    {env₁ env₂ : Option Obj} (hs : s.lifecycle = .running g hd)
    (hl : s.world.memory.leaky = false) (h₁ : BindsNothing s code₁ env₁)
    (h₂ : AsksNothing code₂) :
    ∃ out s₁, s.evaluate code₁ env₁ = (out, s₁) ∧ EvaluatesAlike s₁ s code₂ env₂ := by
  obtain ⟨w, heval, hheld, -, hvis, -⟩ := evaluate_running hs code₁ env₁
  have hrunning : s.state = .running := congrArg Lifecycle.state hs
  have hglobals : w.memory.globals = s.world.memory.globals :=
    (congrArg Visible.globals hvis).trans (h₁.globals_eq hs hl)
  have hlike : Like w s.world := ⟨hglobals, hheld.mode_eq, by rw [hheld.rest]⟩
  exact ⟨_, _, heval,
    RunAlike.evaluatesAlike ⟨hrunning, hrunning, hheld.leaky_eq.trans hl, hl, hlike⟩ h₂⟩

/-- A failure, and then a code that gives an object. -/
theorem evaluate_channel_object :
    ∃ out s₁, plainSession.evaluate "stop('a')" none = (out, s₁) ∧
      EvaluatesAlike s₁ plainSession "NULL" none := by
  refine evaluate_channel rfl rfl (.inr fun x e hbegins => ?_) fun e hbegins => ?_
  · obtain ⟨-, es, hp⟩ := hbegins
    cases hp
  · obtain ⟨-, es, hp⟩ := hbegins
    cases hp
    exact .null

end GuestRuntime.Mini
