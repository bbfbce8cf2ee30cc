import GuestRuntime.Proofs.Dialogue.Lifeless
import GuestRuntime.Proofs.Session.Recorded

/-!
The life of a guest in a session. Of the calls that a recorded guest has had, those that start or
end a guest are its life, and it goes with the stage of the session:

        uninitialized ──▶ running ──▶ shut down
             []           entering    entering, tearing down

Main statements: `start_moved`, `evaluate_moved`, `stop_moved` and `Moved.leads`.
-/

namespace GuestRuntime

open Dialogue

variable {φ ρ σ α : Type}

/-- No call of any such guest panics. -/
def Steady (ρ : Type) {σ : Type} [Guest ρ σ] : Prop :=
  ∀ (g : ρ) (e : Entry) (m : σ), ∃ a, (Guest.call g e m).outcome = .ok a

/-- A dialogue with a steady guest ends, and the record has its calls. -/
theorem ends_recorded [Guest ρ σ] (hsteady : Steady ρ) (g : Recorded ρ) (d : Dialogue α)
    (w : World (Record σ)) :
    Ends g d w fun _ es w' => w'.memory.calls = w.memory.calls ++ es.map Exchange.entry := by
  induction d generalizing w with
  | done a => simp
  | note n d ih => exact ih _
  | ask e held k ih =>
    obtain ⟨x, hx⟩ := hsteady g.inner e w.memory.memory
    let r := Guest.call g.inner e w.memory.memory
    have hcall : w.call g e =
        (.ok x, ⟨⟨r.memory, w.memory.calls ++ [e]⟩, w.host.callbacks r.callbacks⟩) :=
      Prod.ext hx rfl
    refine (ends_ask_of hcall).mpr ((ih x _).mono fun a es w' h => ?_)
    simpa using h

/-- Of some calls, those that start or end a guest. -/
def life (calls : List Entry) : List Entry := calls.filter fun e => e.purpose = .life

theorem life_append (calls calls' : List Entry) :
    life (calls ++ calls') = life calls ++ life calls' := List.filter_append ..

theorem life_entering (arguments : List Bytes) (o : Ownership) :
    life (entering arguments o) = entering arguments o := by
  cases o <;> rfl

namespace Session

/-- What the guests of this session were called that starts or ends one. -/
def life (s : Kept φ ρ σ) : List Entry := GuestRuntime.life s.world.memory.calls

variable {s s' : Kept φ ρ σ}

/-! ### Steps of a life -/

/-- One step of a session: none, or that into its guest's life, or that out of it. -/
inductive Moved (s s' : Kept φ ρ σ) : Prop
  | stays (hl : s'.lifecycle = s.lifecycle) (hlife : s'.life = s.life)
  | enters {g h} (arguments : List Bytes) (hs : s.lifecycle = .uninitialized)
      (hl : s'.lifecycle = .running g h)
      (hlife : s'.life = s.life ++ entering arguments h.ownership)
  | ends {g n} (fatal : Bool) (hs : s.lifecycle = .running g ⟨n, .owned⟩)
      (hl : s'.lifecycle = .shutDown) (hlife : s'.life = s.life ++ tearingDown fatal)

/-- The life of a guest by the stage of its session. -/
inductive Lives : Lifecycle (Recorded ρ) → List Entry → Prop
  | unstarted : Lives .uninitialized []
  | running (g h) (arguments : List Bytes) : Lives (.running g h) (entering arguments h.ownership)
  | ended (arguments : List Bytes) (fatal : Bool) :
    Lives .shutDown (entering arguments .owned ++ tearingDown fatal)

theorem lives_adopted {g : Recorded ρ} {n : Nat} {calls : List Entry}
    (h : Lives (.running g ⟨n, .adopted⟩) calls) : calls = [.isInitialized] := by
  cases h
  rfl

/-- The session is or was the owner of its guest. -/
def Owns (l : Lifecycle (Recorded ρ)) : Prop := (∃ g n, l = .running g ⟨n, .owned⟩) ∨ l = .shutDown

/-- What the steps from one session to another keep. -/
structure Leads (s s' : Kept φ ρ σ) : Prop where
  lives : Lives s.lifecycle s.life → Lives s'.lifecycle s'.life
  owns : Owns s.lifecycle → Owns s'.lifecycle
  adopted : ∀ g n, s.lifecycle = .running g ⟨n, .adopted⟩ → s'.lifecycle = s.lifecycle
  ended : s.lifecycle = .shutDown → s'.lifecycle = .shutDown

theorem Leads.refl (s : Kept φ ρ σ) : Leads s s := ⟨id, id, fun _ _ _ => rfl, id⟩

theorem Leads.trans {s'' : Kept φ ρ σ} (h : Leads s s') (h' : Leads s' s'') : Leads s s'' where
  lives := h'.lives ∘ h.lives
  owns := h'.owns ∘ h.owns
  adopted g n hs := (h'.adopted g n ((h.adopted g n hs).trans hs)).trans (h.adopted g n hs)
  ended := h'.ended ∘ h.ended

theorem Leads.of_stays (hl : s'.lifecycle = s.lifecycle) (hlife : s'.life = s.life) :
    Leads s s' := by
  refine ⟨fun h => ?_, fun h => ?_, fun _ _ _ => hl, hl.trans⟩
  · rwa [hl, hlife]
  · rwa [hl]

/-- A life goes forwards, one step after another. -/
theorem Moved.leads (h : Moved s s') : Leads s s' := by
  cases h with
  | stays hl hlife => exact .of_stays hl hlife
  | @enters g h arguments hs hl hlife =>
    refine ⟨fun hlives => ?_, ?_, ?_, ?_⟩
    · rw [hl, hlife]
      rw [hs] at hlives
      generalize s.life = calls at hlives
      cases hlives
      exact .running g h arguments
    · rintro (⟨g, n, hg⟩ | hg)
      · simp [hs] at hg
      · simp [hs] at hg
    · simp [hs]
    · simp [hs]
  | @ends g n fatal hs hl hlife =>
    refine ⟨fun hlives => ?_, fun _ => .inr hl, ?_, fun _ => hl⟩
    · rw [hl, hlife]
      rw [hs] at hlives
      generalize s.life = calls at hlives
      cases hlives
      exact .ended _ fatal
    · simp [hs]

/-! ### Operations -/

section Guest

variable [Guest ρ σ]

/-- A dialogue of which something is known whoever answers, with a recorded guest. -/
theorem converse_calls (hsteady : Steady ρ) {d : Dialogue α} {Q : Goal α}
    (hd : d.Abides unruled [] Q) (s : Kept φ ρ σ) (g : Recorded ρ) :
    ∃ a w es, s.converse g d = (.ok a, { s with world := w }) ∧ Q a es ∧
      w.memory.calls = s.world.memory.calls ++ es.map Exchange.entry := by
  obtain ⟨a, w, hrun, hcalls⟩ := ends_recorded hsteady g d s.world
  refine ⟨a, w, _, ?_, hd.at_end (fun _ _ _ _ _ => trivial) hrun, hcalls⟩
  rw [converse, hrun]

/-- A dialogue that neither starts nor ends a guest leaves its life as it is. -/
theorem converse_lifeless (hsteady : Steady ρ) {d : Dialogue α} (hd : Lifeless d) (s : Kept φ ρ σ)
    (g : Recorded ρ) : ∃ a w, s.converse g d = (.ok a, { s with world := w }) ∧
      GuestRuntime.life w.memory.calls = s.life := by
  obtain ⟨a, w, hrun, hcalls⟩ := ends_recorded hsteady g d s.world
  refine ⟨a, w, by rw [converse, hrun], ?_⟩
  have hnone : GuestRuntime.life ((d.exchanges g s.world).map Exchange.entry) = [] := by
    refine List.filter_eq_nil_iff.mpr fun e he => ?_
    obtain ⟨x, hx, rfl⟩ := List.mem_map.mp he
    obtain ⟨before, after, hsplit⟩ := List.append_of_mem hx
    simpa using hd.purpose_ne (calls_of_exchanges hsplit)
  rw [hcalls, life_append, hnone, List.append_nil]
  rfl

/-- An owner's stop ends the guest with the flag it is given. -/
theorem stop_owned (hsteady : Steady ρ) {s : Kept φ ρ σ} {g : Recorded ρ} {n : Nat}
    (hs : s.lifecycle = .running g ⟨n, .owned⟩) (fatal : Bool) :
    ∃ s', s.stop fatal = (.ok (.ok ()), s') ∧ s'.lifecycle = .shutDown ∧
      s'.life = s.life ++ tearingDown fatal := by
  obtain ⟨⟨⟩, w, es, hrun, hes, hcalls⟩ :=
    converse_calls hsteady (abides_tearDown (fun _ _ _ => trivial) fatal) s g
  refine ⟨{ s with lifecycle := .shutDown, world := w }.note (.shutDown fatal), ?_, rfl, ?_⟩
  · rw [stop, hs]
    simp only [hrun]
  · show GuestRuntime.life w.memory.calls = _
    rw [hcalls, hes, life_append]
    rfl

/-- A stop that succeeds is the step out of a guest's life; any other is no step. -/
theorem stop_moved (hsteady : Steady ρ) (s : Kept φ ρ σ) (fatal : Bool) :
    ∃ r s', s.stop fatal = (.ok r, s') ∧ Moved s s' ∧ (r = .ok () → s'.lifecycle = .shutDown) := by
  obtain ⟨source, lifecycle, world⟩ := s
  cases lifecycle with
  | uninitialized => exact ⟨.error _, _, rfl, .stays rfl rfl, nofun⟩
  | shutDown => exact ⟨.error _, _, rfl, .stays rfl rfl, nofun⟩
  | running g h =>
    obtain ⟨n, o⟩ := h
    cases o with
    | adopted => exact ⟨.error _, _, rfl, .stays rfl rfl, nofun⟩
    | owned =>
      obtain ⟨s', hstop, hl, hlife⟩ := stop_owned hsteady
        (s := (⟨source, .running g ⟨n, .owned⟩, world⟩ : Kept φ ρ σ)) rfl fatal
      exact ⟨.ok (), s', hstop, .ends fatal rfl hl hlife, fun _ => hl⟩

end Guest

variable [Guest ρ σ] [Source φ ρ σ]

/-- A start is at most one step, and answers with a handle exactly if the session runs then. -/
theorem start_moved (hsteady : Steady ρ) (s : Kept φ ρ σ) :
    ∃ r s', s.start = (.ok r, s') ∧ Moved s s' ∧
      match r with
      | .ok h => ∃ g, s'.lifecycle = .running g h
      | .error _ => s'.state ≠ .running := by
  obtain ⟨source, lifecycle, world⟩ := s
  cases lifecycle with
  | running g h => exact ⟨.ok h, _, rfl, .stays rfl rfl, g, rfl⟩
  | shutDown => exact ⟨.error _, _, rfl, .stays rfl rfl, nofun⟩
  | uninitialized =>
    unfold start
    dsimp only
    cases Terminated.ofTexts (Source.settings source).arguments with
    | error i => exact ⟨.error _, _, rfl, .stays rfl rfl, nofun⟩
    | ok arguments =>
      simp only [Source.openGuest]
      rcases Source.openGuest source.inner world.plain with ⟨f | g, source', world'⟩
      · exact ⟨.error f, _, rfl, .stays rfl rfl, nofun⟩
      · obtain ⟨o, w, es, hrun, hes, hcalls⟩ :=
          converse_calls hsteady (abides_bringUp (fun _ _ _ => trivial) arguments)
            (⟨⟨source'⟩, .uninitialized, world'.recorded world.memory.calls⟩ : Kept φ ρ σ) ⟨g⟩
        simp only [Except.map, hrun]
        refine ⟨.ok _, _, rfl, .enters arguments rfl rfl ?_, _, rfl⟩
        show GuestRuntime.life w.memory.calls = _
        rw [hcalls, hes, life_append, life_entering]
        rfl

/-- An evaluation is at most one step, that of its start. -/
theorem evaluate_moved (hsteady : Steady ρ) (s : Kept φ ρ σ) (code : String) (env : Option Obj) :
    ∃ r s', s.evaluate code env = (.ok r, s') ∧ Moved s s' := by
  obtain ⟨r, s₁, hstart, hmoved, hr⟩ := start_moved hsteady s
  cases r with
  | error f => exact ⟨.error f, s₁, by rw [evaluate, hstart], hmoved⟩
  | ok h =>
    obtain ⟨g, hg⟩ := hr
    obtain ⟨r, w, hrun, hlife⟩ := converse_lifeless hsteady (lifeless_evaluate code env) s₁ g
    have heval : s.evaluate code env = s₁.converse g (.evaluate code env) := by
      rw [evaluate, hstart]
      simp only [hg]
    refine ⟨r, { s₁ with world := w }, heval.trans hrun, ?_⟩
    cases hmoved with
    | stays hl hsame => exact .stays hl (hlife.trans hsame)
    | enters arguments hs hl hentered => exact .enters arguments hs hl (hlife.trans hentered)
    | ends fatal _ hl _ => simp [hg] at hl

end Session
end GuestRuntime
