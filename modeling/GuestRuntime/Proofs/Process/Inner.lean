import GuestRuntime.Proofs.Console.View
import GuestRuntime.Proofs.Process.Operations
import GuestRuntime.Proofs.Session.Starting

/-!
What a process does with its session. A start through the process is a start of the session, and an
evaluation is one of the session that its start leaves; all the process adds is the hook, and of
that the session sees a remark at most. Main statements: `Shared.start_current` and
`Shared.evaluate_current`.
-/

namespace GuestRuntime

variable {φ ρ σ : Type}

namespace Session

/-- The session, the hook being remarked on or not. -/
def Remarked (t t' : Session φ ρ σ) : Prop := t' = t ∨ t' = t.note .hookRefused

variable {t t' : Session φ ρ σ}

theorem Remarked.lifecycle_eq (h : Remarked t t') : t'.lifecycle = t.lifecycle := by
  rcases h with rfl | rfl <;> rfl

theorem Remarked.source_eq (h : Remarked t t') : t'.source = t.source := by
  rcases h with rfl | rfl <;> rfl

theorem Remarked.memory_eq (h : Remarked t t') : t'.world.memory = t.world.memory := by
  rcases h with rfl | rfl <;> rfl

theorem Remarked.console_eq (h : Remarked t t') :
    t'.world.host.console = t.world.host.console := by
  rcases h with rfl | rfl <;> rfl

end Session

namespace Shared

variable [Configurable φ]

theorem current_register (s : Shared φ ρ σ) : s.current.Remarked s.register.current := by
  rcases s.register_cases with ⟨-, hr⟩ | ⟨-, -, hr⟩ | ⟨-, -, hr⟩
  · exact .inl (by rw [hr])
  · exact .inr (by rw [hr, current_note]; rfl)
  · exact .inl (by rw [hr]; rfl)

variable [Guest ρ σ] [Source φ ρ σ]

theorem start_current (s : Shared φ ρ σ) :
    s.start.1 = s.current.start.1 ∧ s.current.start.2.Remarked s.start.2.current := by
  obtain ⟨b, hb⟩ := holding_eq (s := s) Session.start
  have hheld : ({ s.release s.current.start.2 with poisoned := b } : Shared φ ρ σ).current =
      s.current.start.2 := rfl
  unfold start
  rw [hb]
  generalize { s.release s.current.start.2 with poisoned := b } = s' at hheld
  rw [← hheld]
  rcases s.current.start.1 with p | f | h
  · exact ⟨rfl, .inl rfl⟩
  · exact ⟨rfl, .inl rfl⟩
  · refine ⟨rfl, ?_⟩
    dsimp only
    split
    · exact s'.current_register
    · exact .inl rfl

/-- How an evaluation through the process ends: as the start that it needs does, or as it ends in
the session that has been started. -/
theorem evaluate_current (s : Shared φ ρ σ) (code : String) (env : Option Obj) :
    (∃ h t, s.current.start.1 = .ok (.ok h) ∧ s.current.start.2.Remarked t ∧
      (s.evaluate code env).1 = (t.evaluate code env).1 ∧
      (s.evaluate code env).2.current = (t.evaluate code env).2) ∨
    ∃ r : Except Panic Fault, s.current.start.1 = r.map .error ∧
      (s.evaluate code env).1 = r.map .error ∧
      s.current.start.2.Remarked (s.evaluate code env).2.current := by
  obtain ⟨hanswer, hcurrent⟩ := s.start_current
  unfold evaluate
  rcases hstart : s.start with ⟨r, s'⟩
  rw [hstart] at hanswer hcurrent
  obtain rfl : r = _ := hanswer
  rcases hr : s.current.start.1 with p | f | h
  · exact .inr ⟨.error p, rfl, rfl, hcurrent⟩
  · exact .inr ⟨.ok f, rfl, rfl, hcurrent⟩
  · obtain ⟨b, hb⟩ := holding_eq (s := s') fun t => t.evaluate code env
    exact .inl ⟨h, s'.current, rfl, hcurrent, by simp only [hb], by simp only [hb]; rfl⟩

/-! ### The session is there once it has been used -/

omit [Configurable φ] [Guest ρ σ] [Source φ ρ σ] in
theorem session_register (s : Shared φ ρ σ) : s.register.session = s.session := by
  rcases s.register_cases with ⟨-, hr⟩ | ⟨-, -, hr⟩ | ⟨-, -, hr⟩
  · rw [hr]
  · rw [hr]
    rfl
  · rw [hr]

omit [Guest ρ σ] [Source φ ρ σ] in
theorem session_holding {α π : Type} (s : Shared φ ρ σ)
    (f : Session φ ρ σ → Except π α × Session φ ρ σ) : (s.holding f).2.session ≠ none := by
  obtain ⟨b, hb⟩ := holding_eq (s := s) f
  rw [hb]
  nofun

theorem session_start (s : Shared φ ρ σ) : s.start.2.session ≠ none := by
  have hheld := s.session_holding Session.start
  unfold start
  generalize s.holding Session.start = r at hheld
  obtain ⟨p | f | h, s'⟩ := r
  · exact hheld
  · exact hheld
  · dsimp only
    split
    · rw [session_register]
      exact hheld
    · exact hheld

theorem session_evaluate (s : Shared φ ρ σ) (code : String) (env : Option Obj) :
    (s.evaluate code env).2.session ≠ none := by
  have hstarted := s.session_start
  unfold evaluate
  generalize s.start = r at hstarted
  obtain ⟨p | f | h, s'⟩ := r
  · exact hstarted
  · exact hstarted
  · exact s'.session_holding _

theorem session_perform (s : Shared φ ρ σ) (op : Op) : (s.perform op).2.session ≠ none := by
  cases op with
  | configure settings =>
    rw [perform, configure, withSession_eq]
    nofun
  | start => exact s.session_start
  | evaluate code env => exact s.session_evaluate code env
  | stop fatal => exact s.session_holding _
  | state =>
    rw [perform, state, withSession_eq]
    nofun
  | visit uses panics => exact s.session_holding _

end Shared
end GuestRuntime
