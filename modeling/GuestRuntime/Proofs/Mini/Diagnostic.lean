import GuestRuntime.Proofs.Mini.Evaluation

/-!
How the mini guest explains a failure. The last message is fetched by an evaluation of its own,
which answers in one of three ways by the guest's mode: with the message, with nothing, or by
failing itself; it is then not explained again. Main statement: `ends_diagnostic`.
-/

namespace GuestRuntime.Mini

open Dialogue TheGuest Machine

/-- What the diagnostic code is parsed to. -/
def diagnosticExpr : Expr := .call "gsub" [.str "\n", .str "", .call "geterrmessage" []]

theorem first?_diagnosticCode : first? diagnosticCode = some diagnosticExpr := rfl

/-- A line end is replaced wherever it stands. -/
theorem replaceAll_newline (l : List Char) : replaceAll ['\n'] [] l = l.filter (· != '\n') := by
  have from_zero : replaceFrom ['\n'] [] 0 l = l.filter (· != '\n') := by
    induction l with
    | nil => rfl
    | cons c l ih =>
      by_cases hc : c = '\n'
      · subst hc
        simpa [replaceFrom, List.isPrefixOf] using ih
      · simp [replaceFrom, List.isPrefixOf, hc, ih, Ne.symm hc]
  simpa [replaceAll] using from_zero

/-- A text with its zeros left out reads as what is left. -/
theorem decodeLossy_withoutNul (t : String) :
    Utf8.decodeLossy (Terminated.withoutNul t) = String.ofList (t.toList.filter (· != '\x00')) := by
  rw [Utf8.decodeLossy, Terminated.withoutNul, Utf8.decodeChars_encodeChars]

/-- A text without its line ends and zeros. -/
def oneLine (t : String) : String :=
  String.ofList (t.toList.filter fun c => c != '\n' && c != '\x00')

/-- Leaving them out again changes nothing. -/
theorem oneLine_again (t : String) :
    String.ofList
        ((String.ofList ((oneLine t).toList.filter (· != '\x00'))).toList.filter (· != '\n')) =
      oneLine t := by
  simp only [oneLine, String.toList_ofList, List.filter_filter]
  congr 2
  funext c
  cases c != '\n' <;> cases c != '\x00' <;> rfl

variable {m : Machine} {h : Host}

/-- What an evaluation begins with. -/
def Machine.scratch (m : Machine) : Scratch := ⟨m.globals, m.lastError, m.mode, []⟩

theorem outcomeIn_diagnostic_last (hm : m.mode = .last) :
    m.outcomeIn globalEnv diagnosticExpr = (.ok (.ofTexts [oneLine m.lastError]), m.scratch) := by
  have hb : m.outcomeIn globalEnv diagnosticExpr =
      (.ok (.ofTexts ((Value.ofText m.lastError).texts.map fun t =>
        String.ofList (replaceAll ['\n'] [] t.toList))), m.scratch) := by
    rw [scratch, outcomeIn, hm]
    rfl
  rw [hb]
  simp [Value.texts, Value.ofText, decodeLossy_withoutNul, replaceAll_newline, oneLine]

theorem outcomeIn_diagnostic_null (hm : m.mode = .null) :
    m.outcomeIn globalEnv diagnosticExpr = (.ok (.ofTexts []), m.scratch) := by
  rw [scratch, outcomeIn, hm]
  rfl

theorem outcomeIn_diagnostic_fails (hm : m.mode = .fails) :
    m.outcomeIn globalEnv diagnosticExpr = (.error .noMessage, m.scratch) := by
  rw [scratch, outcomeIn, hm]
  rfl

/-- What the host tells of the last failure. -/
def Machine.explanation (m : Machine) : String :=
  match m.mode with
  | .last => oneLine m.lastError
  | _ => unknownMessage

/-- The world after an explanation; only one that fails leaves traces. -/
def afterExplanation (w : World Machine) : World Machine :=
  match w.memory.mode with
  | .fails => afterFailure w .noMessage w.memory.scratch
  | _ => w

theorem ends_diagnostic :
    Ends it diagnostic ⟨m, h⟩ fun t xs w =>
      m.Held 0 (parses xs) w.memory ∧ t = m.explanation ∧ evaluations xs = 1 ∧
        visible w = visible (afterExplanation ⟨m, h⟩) := by
  rw [diagnostic, Dialogue.bind_eq, ends_bind]
  unfold explanation afterExplanation
  cases hm : m.mode with
  | last =>
    refine (ends_evaluation_value first?_diagnosticCode (outcomeIn_diagnostic_last hm)).mono ?_
    rintro r xs w ⟨hw, rfl, hxv, -, hvis⟩
    simp only [Value.ofTexts, List.map_cons, List.map_nil, Value.marshaled, decodeLossy_withoutNul,
      pure_eq, ends_done, List.append_nil]
    exact ⟨hw, oneLine_again _, hxv, hvis⟩
  | null =>
    refine (ends_evaluation_value first?_diagnosticCode (outcomeIn_diagnostic_null hm)).mono ?_
    rintro r xs w ⟨hw, rfl, hxv, -, hvis⟩
    simp only [Value.ofTexts, List.map_nil, Value.marshaled, remark, Dialogue.bind_eq,
      Dialogue.bind, pure_eq, ends_note, ends_done, List.append_nil]
    exact ⟨hw, trivial, hxv, hvis⟩
  | fails =>
    refine (ends_evaluation_failure (P := fun t n w => n = 0 ∧
      visible w = visible (afterFailure ⟨m, h⟩ .noMessage m.scratch)) (fun _ _ _ _ _ hr => hr)
      first?_diagnosticCode (outcomeIn_diagnostic_fails hm) rfl ?_).mono ?_
    · intro w hvis
      exact ends_done.mpr ⟨Held.refl _, rfl, hvis⟩
    rintro r xs w ⟨hw, t, n, rfl, hxv, rfl, hvis⟩
    simp only [remark, Dialogue.bind_eq, Dialogue.bind, pure_eq, ends_note, ends_done,
      List.append_nil]
    exact ⟨hw, trivial, hxv, hvis⟩

end GuestRuntime.Mini
