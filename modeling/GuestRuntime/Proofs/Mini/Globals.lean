import GuestRuntime.Proofs.Mini.FirstExpression
import GuestRuntime.Proofs.Mini.Operand

/-!
The globals over an evaluation. Only the first expression can bind a name, and only as its last
step; so what fails has bound nothing, and what has a value has bound that value or nothing:

        start ── first expression ── explanation, if it failed
                        └ binds one name, if it is an assignment and has a value

Main statement: `evaluate_globals`.
-/

namespace GuestRuntime.Mini

open Dialogue TheGuest Machine

variable {s s' : MiniSession} {code : String} {env : Option Obj} {e : Expr} {w : World Machine}

theorem Begins.isShaped (h : Begins code e) : e.IsShaped := by
  obtain ⟨-, es, hp⟩ := h
  exact parse_isShaped hp e List.mem_cons_self

theorem globals_afterExplanation (w : World Machine) :
    (afterExplanation w).memory.globals = w.memory.globals := by
  unfold afterExplanation
  split <;> rfl

theorem Started.globals_eq {r : Except Fault Handle} (h : Started s r s') :
    s'.world.memory.globals = s.world.memory.globals := by
  cases h <;> rfl

/-- The globals after a code are those that its first expression leaves, if it has one. -/
theorem globals_afterCode (w : World Machine) (code : String) (env : Option Obj) :
    (outcome? w code env = none ∧ (afterCode w code env).memory.globals = w.memory.globals) ∨
    ∃ e r t, Begins code e ∧ outcome? w code env = some (r, t) ∧
      (afterCode w code env).memory.globals = t.globals ∧
      Leaves e w.memory.globals r t.globals ∧
      (w.memory.globals.IsPlain → IsDecent Value.IsPlain r ∧ t.globals.IsPlain) := by
  unfold afterCode
  rcases ho : outcome? w code env with _ | ⟨r, t⟩
  · exact .inl ⟨rfl, rfl⟩
  · obtain ⟨e, hfirst, hrun⟩ := Option.map_eq_some_iff.mp ho
    have hbegins := begins_iff.mpr hfirst
    obtain ⟨hleaves, hplain⟩ := outcomeIn_isShaped hbegins.isShaped hrun
    refine .inr ⟨e, r, t, hbegins, rfl, ?_, hleaves, hplain⟩
    cases r with
    | ok v => rfl
    | error why =>
      dsimp only
      cases why.panic? with
      | some p => rfl
      | none => exact globals_afterExplanation _

/-- How the answer to a code and the globals after it belong together. -/
structure KeepsGlobals (code : String) (g : Globals) (out : Except Panic (Except Fault HostValue))
    (m' : Machine) : Prop where
  /-- A failure has bound nothing, unless it is that the root stack has changed. -/
  failed : ∀ f, out = .ok (.error f) →
    (∀ before after, f ≠ .violation (.imbalance before after)) → m'.globals = g
  /-- There is one panic, and it has bound nothing. -/
  panicked : ∀ p, out = .error p → p = .capacityOverflow ∧ m'.globals = g
  /-- A value is all that can have been bound, to the one name that the code says. -/
  valued : ∀ a, out = .ok (.ok a) → ∃ e x v, Begins code e ∧ m'.object? x = some v ∧
    a = v.marshaled x ∧
    (m'.globals = g ∨ ∃ name rhs, e = .assign name rhs ∧
      List.lookup name m'.globals = some v ∧
      ∀ other, other ≠ name → List.lookup other m'.globals = List.lookup other g)

/-- Without a value for an answer the globals are as before. -/
theorem globals_afterCode_of_ne {w : World Machine} (h : ∀ a, answered w code env ≠ .ok (.ok a)) :
    (afterCode w code env).memory.globals = w.memory.globals := by
  rcases globals_afterCode w code env with ⟨-, hg⟩ | ⟨e, r, t, -, ho, hg, hleaves, -⟩
  · exact hg
  · generalize t.globals = g' at hg hleaves
    -- A name is bound only where there is a value, and then that is the answer.
    cases hleaves with
    | same => exact hg
    | bound => exact absurd (by rw [answered, ho]) (h _)

theorem evaluate_running_globals {g : TheGuest} {hd : Handle} (hs : s.lifecycle = .running g hd)
    (code : String) (env : Option Obj) :
    ∃ out s', s.evaluate code env = (out, s') ∧
      KeepsGlobals code s.world.memory.globals out s'.world.memory := by
  obtain ⟨w, heval, hw⟩ := evaluate_running hs code env
  have hglobals : w.memory.globals = (afterCode s.world code env).memory.globals :=
    congrArg Visible.globals hw.visible
  refine ⟨_, _, heval, ?_, ?_, ?_⟩
  · intro f hf hno
    obtain ⟨r, hr, hf⟩ := checked_eq_ok.mp hf
    split at hf
    · exact hglobals.trans (globals_afterCode_of_ne fun a ha => by simp [hr, ← hf] at ha)
    · exact absurd (Except.error.inj hf) (hno _ _)
  · intro p hp
    have hp := checked_eq_error.mp hp
    exact ⟨(answered_eq_error.mp hp).1,
      hglobals.trans (globals_afterCode_of_ne fun a ha => by simp [hp] at ha)⟩
  · intro a ha
    obtain ⟨r, hr, ha⟩ := checked_eq_ok.mp ha
    split at ha
    · obtain ⟨v, t, ho, rfl⟩ := answered_eq_value.mp (ha ▸ hr)
      rcases globals_afterCode s.world code env with
        ⟨hnone, -⟩ | ⟨e, r, t', hbegins, ho', hg, hleaves, -⟩
      · cases hnone.symm.trans ho
      · cases ho'.symm.trans ho
        refine ⟨e, _, v, hbegins, hw.stands v t ho, rfl, ?_⟩
        show w.memory.globals = _ ∨ ∃ name rhs, e = .assign name rhs ∧
          List.lookup name w.memory.globals = some v ∧
          ∀ other, other ≠ name → List.lookup other w.memory.globals = _
        rw [hglobals.trans hg]
        generalize t.globals = g' at hleaves
        cases hleaves with
        | same => exact .inl rfl
        | @bound name rhs _ he =>
          exact .inr ⟨name, rhs, he, Globals.lookup_set_self, fun _ => Globals.lookup_set_of_ne⟩
    · cases ha

/-- However an evaluation ends, in whatever state the session is: if it fails, then no name is bound
anew, unless all that failed is the balance of the root stack; nor is one if the guest panics, which
it does over a request for too much memory only; if it has a value, then either no name is bound
anew, or the first expression is an assignment and its name alone is, to that value. -/
theorem evaluate_globals (s : MiniSession) (code : String) (env : Option Obj) :
    ∃ out s', s.evaluate code env = (out, s') ∧
      KeepsGlobals code s.world.memory.globals out s'.world.memory := by
  rcases evaluate_cases s code env with
    ⟨f, s₁, hst, heval, -⟩ | ⟨hd, s₁, g, hst, hrun, heval, -⟩
  · exact ⟨_, s₁, heval, fun _ _ _ => hst.globals_eq, nofun, nofun⟩
  · rw [heval, ← hst.globals_eq]
    exact evaluate_running_globals hrun code env

end GuestRuntime.Mini
