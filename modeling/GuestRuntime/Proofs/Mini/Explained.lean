import GuestRuntime.Proofs.Mini.Globals
import GuestRuntime.Proofs.Mini.Lifecycle

/-!
What the host is told of a failure. The message is that of the failure itself, on one line: it is
noted before it is asked for, nothing that the guest noted earlier is left, and nothing on its way
leaves out more than the line ends, since no value and no name that a session can come to has a
zero in it. Main statement: `evaluate_explains`.
-/

namespace GuestRuntime.Mini

open Dialogue TheGuest Machine Terminated

variable {s s' : MiniSession} {code : String} {env : Option Obj} {e : Expr} {why : EvalError}
  {t : Scratch}

/-- A session that operations have led to, from one that had not been started. -/
def Reached (s : MiniSession) : Prop :=
  ∃ p running host ops, s = (run (newSession p running host) ops).session

/-! ### Sessions bind plain values only -/

theorem Stopped.globals_eq {fatal : Bool} {r : Except Fault Unit} (h : Stopped s fatal r s') :
    s'.world.memory.globals = s.world.memory.globals := by
  cases h <;> rfl

theorem isPlain_afterCode (w : World Machine) (code : String) (env : Option Obj)
    (hw : w.memory.globals.IsPlain) : (afterCode w code env).memory.globals.IsPlain := by
  rcases globals_afterCode w code env with ⟨-, hg⟩ | ⟨e, r, t, -, -, hg, -, hplain⟩
  · exact hg ▸ hw
  · exact hg ▸ (hplain hw).2

/-- Every operation keeps the globals plain. -/
theorem perform_isPlain (op : Op) (hend : s.state = .running → s.world.memory.ended = none)
    (hs : s.world.memory.globals.IsPlain) : (perform s op).2.world.memory.globals.IsPlain := by
  cases op with
  | start =>
    obtain ⟨r, s₁, hstart, hst⟩ := start_started s
    rw [perform, hstart]
    exact hst.globals_eq ▸ hs
  | evaluate code env =>
    rcases evaluate_cases s code env with
      ⟨f, s₁, hst, heval, -⟩ | ⟨hd, s₁, g, hst, hrun, heval, -⟩
    · rw [perform, heval]
      exact hst.globals_eq ▸ hs
    · obtain ⟨w, heval₁, hw⟩ := evaluate_running hrun code env
      have hglobals : w.memory.globals = _ := congrArg Visible.globals hw.visible
      rw [perform, heval, heval₁]
      show w.memory.globals.IsPlain
      exact hglobals ▸ isPlain_afterCode s₁.world code env (hst.globals_eq ▸ hs)
  | stop fatal =>
    obtain ⟨r, s', hstop, hst⟩ := stop_stopped fatal hend
    rw [perform, hstop]
    exact hst.globals_eq ▸ hs
  | leak => exact hs
  | messages mode => exact hs

theorem Reached.isPlain (h : Reached s) : s.world.memory.globals.IsPlain := by
  obtain ⟨p, running, host, ops, rfl⟩ := h
  have hrun : Lived running (run (newSession p running host) ops) ∧
      (run (newSession p running host) ops).session.world.memory.globals.IsPlain := by
    refine run_induction (P := fun r => Lived running r ∧ r.session.world.memory.globals.IsPlain)
      ⟨lived_newSession p running host, fun b hb => nomatch hb⟩ ?_ ops
    rintro r op ⟨hlived, hplain⟩
    exact ⟨hlived.step op, perform_isPlain op hlived.not_ended hplain⟩
  exact hrun.2

/-! ### The message -/

/-- A text without its line ends. -/
def withoutNewlines (t : String) : String := String.ofList (t.toList.filter (· != '\n'))

theorem oneLine_of_isSendable {t : String} (h : IsSendable t) : oneLine t = withoutNewlines t := by
  unfold oneLine withoutNewlines
  congr 1
  refine List.filter_congr fun c hc => ?_
  have : c ≠ '\x00' := fun hz => h (hz ▸ hc)
  simp [this]

/-- What is noted of a failure, on one line. -/
theorem withoutNewlines_errorText (why : EvalError) :
    withoutNewlines (errorText why) = "Error: " ++ withoutNewlines why.message := by
  apply String.toList_injective
  simp [withoutNewlines, errorText]

/-- A failure is explained by what was noted of it, whatever was noted before. -/
theorem explanation_afterFailure (w : World Machine) (why : EvalError) (t : Scratch) :
    (afterFailure w why t).memory.explanation =
      match w.memory.mode with
      | .last => oneLine (errorText why)
      | .fails | .null => unknownMessage := by
  have hmode : (afterFailure w why t).memory.mode = w.memory.mode := rfl
  rw [explanation, hmode]
  cases w.memory.mode <;> rfl

/-- On a running session that does not leak, a code whose first expression fails, which a panic is
not, is answered with a runtime fault that has the code in it, and a message on one line: that of
this failure if the guest tells its last one, and a fixed one if it does not. -/
theorem evaluate_explains {g : TheGuest} {hd : Handle} (hreached : Reached s)
    (hs : s.lifecycle = .running g hd) (hl : s.world.memory.leaky = false) (hb : Begins code e)
    (he : s.world.memory.outcomeIn (environment env) e = (.error why, t))
    (hfailure : why.panic? = none) :
    ∃ message s', s.evaluate code env = (.ok (.error (.runtime message code)), s') ∧
      (message =
        match s.world.memory.mode with
        | .last => "Error: " ++ withoutNewlines why.message
        | .fails | .null => unknownMessage) ∧
      '\n' ∉ message.toList := by
  obtain ⟨w, heval, -⟩ := evaluate_answered hs hl code env
  have ho : outcome? s.world code env = some (.error why, t) :=
    (outcome?_of_begins hb).trans (congrArg some he)
  simp only [answered, ho, hfailure] at heval
  refine ⟨_, _, heval, ?_⟩
  have hwhy : IsSendable why.message := ((outcomeIn_isShaped hb.isShaped he).2 hreached.isPlain).1
  have htext : IsSendable (errorText why) :=
    isSendable_append (isSendable_append (by decide) hwhy) (by decide)
  have hlast : oneLine (errorText why) = "Error: " ++ withoutNewlines why.message :=
    (oneLine_of_isSendable htext).trans (withoutNewlines_errorText why)
  have hline : '\n' ∉ (oneLine (errorText why)).toList := by simp [oneLine]
  have hfixed : '\n' ∉ unknownMessage.toList := by decide
  rw [explanation_afterFailure]
  cases s.world.memory.mode with
  | last => exact ⟨hlast, hline⟩
  | fails | null => exact ⟨rfl, hfixed⟩

/-- A code can fail with a text of its own. -/
theorem outcomeIn_stop (m : Machine) (t : String) :
    m.outcomeIn globalEnv (.call "stop" [.str t]) =
      (.error (.stopped (String.ofList (t.toList.filter (· != '\x00')))), m.scratch) := by
  have hb : m.outcomeIn globalEnv (.call "stop" [.str t]) =
      (.error (.stopped (String.join (Value.ofText t).texts)), m.scratch) := rfl
  rw [hb]
  simp [Value.texts, Value.ofText, decodeLossy_withoutNul, String.join]

/-- A session that was started and has had a failure. -/
def failedSession : MiniSession :=
  (run (newSession {} false bareHost) [.start, .evaluate "nope" none]).session

/-- The next failure has a message of its own, on one line. -/
theorem evaluate_explains_again :
    ∃ s', failedSession.evaluate "stop('a\nb')" none =
      (.ok (.error (.runtime "Error: ab" "stop('a\nb')")), s') := by
  have hreached : Reached failedSession := ⟨{}, false, bareHost, _, by rw [failedSession]⟩
  have hstart : (newSession {} false bareHost).start.2.lifecycle = .running it ⟨1, .owned⟩ := rfl
  obtain ⟨w, heval, hw⟩ := evaluate_running hstart "nope" none
  have hs : failedSession = { (newSession {} false bareHost).start.2 with world := w } := by
    simp only [failedSession, run, List.foldl, Run.step, perform, heval]
  rw [hs] at hreached ⊢
  have hb : Begins "stop('a\nb')" (.call "stop" [.str "a\nb"]) := ⟨by decide, _, rfl⟩
  have he : w.memory.outcomeIn (environment none) (.call "stop" [.str "a\nb"]) = _ :=
    outcomeIn_stop w.memory "a\nb"
  obtain ⟨message, s', hagain, hmessage, -⟩ :=
    evaluate_explains hreached hstart hw.held.leaky_eq hb he rfl
  have hmode : w.memory.mode = .last := hw.held.mode_eq
  have htext : message = "Error: ab" := by
    simp only [hmode] at hmessage
    rw [hmessage]
    decide
  exact ⟨s', htext ▸ hagain⟩

end GuestRuntime.Mini
