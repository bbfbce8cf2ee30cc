import GuestRuntime.Library.Loaded
import GuestRuntime.Proofs.Dialogue.Lifeless
import GuestRuntime.Proofs.Mini.FirstExpression
import GuestRuntime.Proofs.Session.Starting

/-!
Evaluations of a running session, with whatever guest. All that is assumed is that a guest answers
an object it is asked to root with that object; both guests here do. Main statement:
`Session.evaluate_touches_alive`.
-/

namespace GuestRuntime

open Dialogue

variable {φ ρ σ : Type} [Guest ρ σ] [Source φ ρ σ] {g : ρ} {hd : Handle}

/-- A guest that answers an object it is asked to root with that object. -/
def ReturnsRoots (g : ρ) : Prop :=
  ∀ (x y : Obj) (w w' : World σ), w.call g (.protect x) = (.ok y, w') → y = x

theorem returnsRoots_mini (g : Mini.TheGuest) : ReturnsRoots g := by
  rintro x y ⟨m, h⟩ w' hc
  exact (Except.ok.inj (congrArg Prod.fst hc)).symm

theorem returnsRoots_loaded (g : Library.Loaded) : ReturnsRoots g := by
  rintro x y w w' hc
  exact (Except.ok.inj (congrArg Prod.fst hc)).symm

theorem ReturnsRoots.admitted (hg : ReturnsRoots g) : rooting.Admitted g := by
  intro e x w w' hc
  cases e with
  | protect y => exact hg y x w w' hc
  | _ => trivial

namespace Session

variable {s : Session φ ρ σ}

/-- On a running session an evaluation is a dialogue with its guest. Whatever the guest answers,
each call touches an object that is alive at that moment, none starts or ends the guest, and at most
two expressions are evaluated, whether or not the guest panics on the way; and an evaluation that
ends has released what it rooted frame by frame, the explanation of a failure inside. -/
theorem evaluate_touches_alive (hs : s.lifecycle = .running g hd) (hg : ReturnsRoots g)
    (code : String) (env : Option Obj) :
    s.evaluate code env = s.converse g (.evaluate code env) ∧
      (∀ past e, Calls g (.evaluate code env) s.world past e →
        Permitted past e ∧ e.purpose ≠ .life) ∧
      evaluations ((Dialogue.evaluate code env).exchanges g s.world) ≤ 2 ∧
      ∀ r s', s.evaluate code env = (.ok r, s') →
        IsEvaluation ((Dialogue.evaluate code env).exchanges g s.world) ∧
        rooted ((Dialogue.evaluate code env).exchanges g s.world) = [] := by
  have hconverse := evaluate_eq_converse hs code env
  have habides := abides_evaluate code env
  have hpermits : ∀ past e, Calls g (.evaluate code env) s.world past e → Permitted past e :=
    fun past e hc => habides.permits hg.admitted hc
  have hlife : ∀ past e, Calls g (.evaluate code env) s.world past e → e.purpose ≠ .life :=
    fun past e hc => (lifeless_evaluate code env).purpose_ne hc
  refine ⟨hconverse, fun past e hc => ⟨hpermits past e hc, hlife past e hc⟩, ?_, ?_⟩
  · exact evaluations_le_two fun past x rest hx => hpermits past x.entry (calls_of_exchanges hx)
  · intro r s' hr
    rw [hconverse] at hr
    rcases hrun : (Dialogue.evaluate code env).run g s.world with ⟨r', w'⟩
    simp only [converse, hrun, Prod.mk.injEq] at hr
    obtain ⟨rfl, -⟩ := hr
    have hes := habides.at_end hg.admitted hrun
    exact ⟨hes, hes.rooted_eq⟩

/-- A failure has its explanation inside: two expressions are evaluated, in frames that close. -/
theorem evaluate_touches_alive_nested :
    let es := (Dialogue.evaluate "nope" none).exchanges Mini.TheGuest.it Mini.plainSession.world
    evaluations es = 2 ∧ IsEvaluation es ∧ rooted es = [] := by
  have hs : Mini.plainSession.lifecycle = .running .it ⟨1, .owned⟩ := rfl
  obtain ⟨w, heval, hw⟩ := Mini.evaluate_running hs "nope" none
  obtain ⟨-, -, -, hend⟩ := evaluate_touches_alive hs (returnsRoots_mini .it) "nope" none
  exact ⟨hw.evaluations.trans rfl, hend _ _ heval⟩

end Session
end GuestRuntime
