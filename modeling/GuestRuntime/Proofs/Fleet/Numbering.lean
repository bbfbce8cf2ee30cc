import GuestRuntime.Proofs.Fleet.Twin

/-!
The numbers of handles. A process counts the sessions that start, and nothing else moves the count:

        next n ── start of a session ──▶ next n + 1, its handle has n
        next n ── anything else ───────▶ next n,     its handle, if it has one still, is the old one

Main statement: `observe_numbers`.
-/

namespace GuestRuntime.Mini

open Dialogue TheGuest

/-- The number of the next session of the process that starts. -/
def nextOf (s : MiniSession) : Nat := s.world.host.nextSerial

/-- What an operation does to the count, and to the handle of its session. -/
inductive Numbers (s s' : MiniSession) : Prop
  | keeps (hn : nextOf s' = nextOf s)
      (hu : s'.state = .uninitialized ↔ s.state = .uninitialized)
      (hh : ∀ h, s'.handle? = some h → s.handle? = some h)
  | gives {o} (hu : s.state = .uninitialized) (hn : nextOf s' = nextOf s + 1)
      (hh : s'.handle? = some ⟨nextOf s, o⟩)

variable {s s' t : MiniSession} {α : Type}

theorem nextSerial_unwind (g : TheGuest) (held : List Nat) (w : World Machine) :
    (unwind g held w).host.nextSerial = w.host.nextSerial := by
  induction held generalizing w with
  | nil => rfl
  | cons n held ih => exact ih _

theorem nextSerial_run (g : TheGuest) (d : Dialogue α) (w : World Machine) :
    (d.run g w).2.host.nextSerial = w.host.nextSerial := by
  induction d generalizing w with
  | done a => rfl
  | note n d ih => exact ih { w with host := w.host.note n }
  | ask e held k ih =>
    rcases hcall : w.call g e with ⟨p | a, w₁⟩
    all_goals have hw₁ : w₁.host.nextSerial = w.host.nextSerial :=
      congrArg (fun r => r.2.host.nextSerial) hcall.symm
    · simpa only [Dialogue.run, hcall] using (nextSerial_unwind g held w₁).trans hw₁
    · simpa only [Dialogue.run, hcall] using (ih a w₁).trans hw₁

/-- A dialogue changes the world only, and there not the count. -/
theorem exists_converse (s : MiniSession) (g : TheGuest) (d : Dialogue α) :
    ∃ r w, s.converse g d = (r, { s with world := w }) ∧ w.host.nextSerial = nextOf s :=
  ⟨_, _, rfl, nextSerial_run g d s.world⟩

/-- What leaves the stage and the count alone. -/
theorem Numbers.then (h : Numbers s t) (hl : s'.lifecycle = t.lifecycle)
    (hn : nextOf s' = nextOf t) : Numbers s s' := by
  have hstate : s'.state = t.state := congrArg Lifecycle.state hl
  have hhandle : s'.handle? = t.handle? := by rw [Session.handle?, Session.handle?, hl]
  cases h with
  | keeps hn₁ hu hh => exact .keeps (hn.trans hn₁) (hstate ▸ hu) (hhandle ▸ hh)
  | gives hu hn₁ hh => exact .gives hu (hn.trans hn₁) (hhandle.trans hh)

theorem Numbers.refl (s : MiniSession) : Numbers s s := .keeps rfl .rfl fun _ => id

theorem numbers_start (s : MiniSession) :
    ∃ r t, s.start = (r, t) ∧ Numbers s t ∧ ∀ h, r = .ok (.ok h) → t.handle? = some h := by
  obtain ⟨⟨settings, failures⟩, lifecycle, ⟨m, host⟩⟩ := s
  cases lifecycle with
  | running g hd =>
    exact ⟨_, _, rfl, .refl _, fun h hh => congrArg some (Except.ok.inj (Except.ok.inj hh))⟩
  | shutDown => exact ⟨_, _, rfl, .refl _, fun h hh => by cases hh⟩
  | uninitialized =>
    unfold Session.start
    simp only [Source.settings]
    cases Terminated.ofTexts settings.arguments with
    | error i => exact ⟨_, _, rfl, .refl _, fun h hh => by cases hh⟩
    | ok arguments =>
      cases failures with
      | succ n => exact ⟨_, _, rfl, .keeps rfl .rfl fun _ => id, fun h hh => by cases hh⟩
      | zero =>
        simp only [Source.openGuest, Provider.openGuest]
        obtain ⟨r, w, hx, hn⟩ := exists_converse
          ⟨⟨settings, 0⟩, .uninitialized, ⟨{ m with opens := m.opens + 1 }, host⟩⟩ it
          (.bringUp arguments)
        have hn : w.host.nextSerial = host.nextSerial := hn
        rw [hx]
        cases r with
        | error p => exact ⟨_, _, rfl, .keeps hn .rfl fun _ => id, fun h hh => by cases hh⟩
        | ok o =>
          refine ⟨_, _, rfl, .gives (o := o) rfl (congrArg (· + 1) hn) ?_, ?_⟩
          · exact congrArg (fun n => some (⟨n, o⟩ : Handle)) hn
          · rintro h ⟨⟩
            rfl

theorem numbers_stop (s : MiniSession) (fatal : Bool) : Numbers s (s.stop fatal).2 := by
  obtain ⟨source, lifecycle, world⟩ := s
  cases lifecycle with
  | uninitialized => exact .refl _
  | shutDown => exact .keeps rfl .rfl fun _ => id
  | running g hd =>
    obtain ⟨n, o⟩ := hd
    cases o with
    | adopted => exact .refl _
    | owned =>
      obtain ⟨r, w, hx, hn⟩ :=
        exists_converse ⟨source, .running g ⟨n, .owned⟩, world⟩ g (.tearDown fatal)
      unfold Session.stop
      dsimp only
      rw [hx]
      cases r with
      | error p => exact .keeps hn .rfl fun _ => id
      | ok u =>
        refine .keeps hn ⟨?_, ?_⟩ ?_
        · rintro ⟨⟩
        · rintro ⟨⟩
        · rintro h ⟨⟩

theorem numbers_evaluate (s : MiniSession) (code : String) (env : Option Obj) :
    Numbers s (s.evaluate code env).2 := by
  obtain ⟨r, ⟨source, lifecycle, world⟩, hx, hstart, -⟩ := numbers_start s
  unfold Session.evaluate
  rw [hx]
  rcases r with p | (f | h)
  · exact hstart
  · exact hstart
  · cases lifecycle with
    | uninitialized | shutDown => exact hstart
    | running g hd => exact hstart.then rfl (nextSerial_run g (.evaluate code env) world)

/-- The handle that a start answers is the one that the session has then. -/
theorem numbers_perform (s : MiniSession) (op : Op) :
    Numbers s (perform s op).2 ∧
      ∀ h, handle? (perform s op).1 = some h → (perform s op).2.handle? = some h := by
  cases op with
  | start =>
    obtain ⟨r, t, hx, hn, hh⟩ := numbers_start s
    rw [perform, hx]
    refine ⟨hn, fun h hans => hh h ?_⟩
    rcases r with p | (f | h') <;> cases hans
    rfl
  | evaluate code env =>
    refine ⟨numbers_evaluate s code env, fun h hans => ?_⟩
    rw [perform] at hans
    rcases hr : (s.evaluate code env).1 with p | r <;> rw [hr] at hans <;> cases hans
  | stop fatal =>
    refine ⟨numbers_stop s fatal, fun h hans => ?_⟩
    rw [perform] at hans
    rcases hr : (s.stop fatal).1 with p | r <;> rw [hr] at hans <;> cases hans
  | leak => exact ⟨.keeps rfl .rfl fun _ => id, fun h hans => by cases hans⟩
  | messages mode => exact ⟨.keeps rfl .rfl fun _ => id, fun h hans => by cases hans⟩

/-- The handles that an operation shows: that of its answer, and that of the session. -/
def Seen.handles (x : Seen) : List Handle := (handle? x.answer).toList ++ x.handle.toList

/-- An operation moves the count by one if it starts the session, and else leaves it; all handles it
shows are the one that the session then has. -/
theorem observe_numbers (s : MiniSession) (op : Op) :
    Numbers s (observe op s).2 ∧
      ∀ h ∈ (observe op s).1.handles, (observe op s).2.handle? = some h := by
  have hobserve : (observe op s).2 =
      (perform s.listening op).2.withOwn s.world.host.output.own := rfl
  have hanswer : (observe op s).1.answer = (perform s.listening op).1 := rfl
  have hhandle : (observe op s).1.handle = (perform s.listening op).2.handle? := rfl
  obtain ⟨hn, hh⟩ := numbers_perform s.listening op
  refine ⟨?_, fun h hmem => ?_⟩
  · rw [hobserve]
    cases hn with
    | keeps hn hu hh => exact .keeps hn hu hh
    | gives hu hn hh => exact .gives hu hn hh
  · rw [hobserve]
    rw [Seen.handles, hanswer, hhandle, List.mem_append, Option.mem_toList,
      Option.mem_toList] at hmem
    exact hmem.elim (hh h) id

end GuestRuntime.Mini
