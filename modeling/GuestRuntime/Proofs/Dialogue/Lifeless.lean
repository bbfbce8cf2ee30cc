import GuestRuntime.Proofs.Dialogue.Ordinary
import GuestRuntime.Session

/-!
Which dialogues start or end a guest. An evaluation never does, whatever it is answered; a start
does it in five calls, or in one if it finds the guest running, and a stop in six. Main statements:
`lifeless_evaluate`, `abides_bringUp` and `abides_tearDown`.
-/

namespace GuestRuntime

namespace Dialogue

variable {α β : Type} {P : Goal α}

/-- The rule that nothing starts or ends a guest; it may give any answer. -/
def lifeless : Rule where
  permits _ e := e.purpose ≠ .life
  admits _ := True

/-- The rule that allows everything. -/
def unruled : Rule where
  permits _ _ := True
  admits _ := True

/-- The dialogue neither starts nor ends a guest. -/
def Lifeless (d : Dialogue α) : Prop := ∀ past, d.Abides lifeless past fun _ _ => True

/-- No guest is ever called for its life. -/
theorem Lifeless.purpose_ne {ρ σ : Type} [Guest ρ σ] {g : ρ} {d : Dialogue α} {w : World σ}
    {past : List Exchange} {e : Entry} (hd : Lifeless d) (hc : Calls g d w past e) :
    e.purpose ≠ .life :=
  (hd []).permits (fun _ _ _ _ _ => trivial) hc

theorem lifeless_done {a : α} : Lifeless (done a) := fun _ => trivial

theorem lifeless_note {n : Note} {d : Dialogue α} (hd : Lifeless d) : Lifeless (note n d) := hd

theorem lifeless_ask {e : Entry} {held : List Nat} {k : e.Answer → Dialogue α}
    (he : (e.purpose != .life) = true) (hk : ∀ x, Lifeless (k x)) : Lifeless (ask e held k) :=
  fun _ => ⟨bne_iff_ne.mp he, fun x _ => hk x _⟩

theorem lifeless_bind {d : Dialogue α} {f : α → Dialogue β} (hd : Lifeless d)
    (hf : ∀ a, Lifeless (f a)) : Lifeless (d.bind f) := fun past =>
  abides_bind.mpr ((hd past).mono fun a past' _ => hf a past')

/-- Ordinary calls are not of a guest's life. -/
theorem Ordinary.lifeless {Q : α → Prop} {d : Dialogue α} (hd : Ordinary d Q) : Lifeless d :=
  fun past => ((hd past).mono fun _ _ _ => trivial).weaken
    (fun _ _ => Entry.purpose_ne_life) fun _ _ => trivial

/-- An evaluation neither starts nor ends a guest, not even to explain a failure. -/
theorem lifeless_evaluate (code : String) (env : Option Obj) : Lifeless (evaluate code env) := by
  simp only [evaluate, call, Dialogue.bind_eq, Dialogue.bind]
  refine lifeless_ask rfl fun before => ?_
  have hevaluation := ordinary_evaluation isOrdinary_diagnostic code env
  refine lifeless_bind hevaluation.lifeless fun r => ?_
  refine lifeless_ask rfl fun after => ?_
  cases before with
  | none => exact lifeless_done
  | some before =>
    cases after with
    | none => exact lifeless_done
    | some after =>
      simp only []
      split
      · exact lifeless_done
      · exact lifeless_note lifeless_done

/-! ### Starting and ending -/

/-- The calls that a guest gets when a session enters it: one that runs already is only asked. -/
def entering (arguments : List Bytes) : Ownership → List Entry
  | .adopted => [.isInitialized]
  | .owned =>
    [.isInitialized, .boot arguments, .disableStackCheck, .installCallbacks, .setUpMainLoop]

/-- The calls that end a guest. -/
def tearingDown (fatal : Bool) : List Entry :=
  [.runLast, .runFinalizers, .killDevices, .cleanTempDir, .collect, .finish fatal]

theorem abides_bringUp {rule : Rule} (hlife : ∀ past e, e.purpose = .life → rule.permits past e)
    (arguments : List Bytes) :
    (bringUp arguments).Abides rule [] fun o es =>
      es.map Exchange.entry = entering arguments o := by
  simp only [bringUp, call, remark, Dialogue.bind_eq, Dialogue.bind]
  refine ⟨hlife _ _ rfl, fun running _ => ?_⟩
  cases running with
  | true => rfl
  | false =>
    refine ⟨hlife _ _ rfl, fun status _ => ?_⟩
    dsimp only
    split
    · exact ⟨hlife _ _ rfl, fun _ _ => ⟨hlife _ _ rfl, fun _ _ => ⟨hlife _ _ rfl, fun _ _ => rfl⟩⟩⟩
    · exact ⟨hlife _ _ rfl, fun _ _ => ⟨hlife _ _ rfl, fun _ _ => ⟨hlife _ _ rfl, fun _ _ => rfl⟩⟩⟩

theorem abides_tearDown {rule : Rule} (hlife : ∀ past e, e.purpose = .life → rule.permits past e)
    (fatal : Bool) :
    (tearDown fatal).Abides rule [] fun _ es => es.map Exchange.entry = tearingDown fatal :=
  ⟨hlife _ _ rfl, fun _ _ => ⟨hlife _ _ rfl, fun _ _ => ⟨hlife _ _ rfl, fun _ _ =>
    ⟨hlife _ _ rfl, fun _ _ => ⟨hlife _ _ rfl, fun _ _ => ⟨hlife _ _ rfl, fun _ _ => rfl⟩⟩⟩⟩⟩⟩

end Dialogue
end GuestRuntime
