import GuestRuntime.Session
import GuestRuntime.Text.Utf8.Lemmas

/-!
Captured console text. While text is captured the own sink is a buffer, and a buffer takes all:
whatever else the console is, what is captured is what the callbacks hand over, in order. So a
dialogue whose text is captured goes the same way in every process:

        guest, buffer, any other console ── dialogue ──▶ the same answer, memory and text

Main statements: `Dialogue.run_of_buffer` and `Session.captured_eq`.
-/

namespace GuestRuntime

/-- The text that a callback hands over, if it hands one over, read as text. -/
def Callback.text? : Callback → Option String
  | .write (some b) n _ => if 0 < n then some (Utf8.decodeLossy (b.take n.toNat)) else none
  | .message (some b) => some (Utf8.decodeLossy (Terminated.upToNul b))
  | _ => none

namespace Output

variable {o : Output} {held : Bytes}

/-- The text that callbacks hand over. -/
def spoken (cs : List Callback) : Bytes := cs.flatMap fun c => ((textOf c).map Prod.snd).getD []

theorem textOf_eq (c : Callback) : (textOf c).map Prod.snd = c.text?.map Utf8.encode := by
  cases c with
  | write bytes n kind =>
    cases bytes with
    | none => rfl
    | some b => by_cases hn : 0 < n <;> simp [textOf, Callback.text?, hn, readable]
  | message bytes => cases bytes <;> rfl
  | cleanUp | processEvents | busy => rfl

/-- Texts that are handed over are joined. -/
theorem spoken_eq (cs : List Callback) :
    spoken cs = Utf8.encode (String.join (cs.filterMap Callback.text?)) := by
  induction cs with
  | nil => rfl
  | cons c cs ih =>
    have hcons : spoken (c :: cs) = ((textOf c).map Prod.snd).getD [] ++ spoken cs := rfl
    rw [hcons, textOf_eq, ih]
    cases ht : c.text? with
    | none => simp [ht]
    | some t => simp [ht, Utf8.encode_append]

/-- The output with another own sink. -/
def withOwn (o : Output) (s : Option Sink) : Output := { o with own := s }

theorem callback_of_buffer (ho : o.own = some (.buffer held)) (c : Callback) :
    o.callback c = o.withOwn (some (.buffer (held ++ spoken [c]))) := by
  unfold callback
  cases ht : textOf c with
  | none =>
    have hspoken : spoken [c] = [] := by simp [spoken, ht]
    rw [hspoken, List.append_nil, ← ho]
    rfl
  | some t =>
    obtain ⟨call, text⟩ := t
    have hspoken : spoken [c] = text := by simp [spoken, ht]
    simp only [emit, ho, hspoken]
    rfl

/-- A buffer takes the text of all callbacks, and nothing else of the output changes. -/
theorem callbacks_of_buffer (ho : o.own = some (.buffer held)) (cs : List Callback) :
    cs.foldl callback o = o.withOwn (some (.buffer (held ++ spoken cs))) := by
  induction cs generalizing o held with
  | nil =>
    rw [spoken, List.flatMap_nil, List.append_nil, ← ho]
    rfl
  | cons c cs ih =>
    have hspoken : spoken (c :: cs) = spoken [c] ++ spoken cs := by simp [spoken]
    rw [List.foldl_cons, callback_of_buffer ho, ih rfl, hspoken, List.append_assoc]
    rfl

end Output

namespace Host

theorem own_callbacks {h : Host} {held : Bytes} (ho : h.output.own = some (.buffer held))
    (cs : List Callback) :
    (h.callbacks cs).output.own = some (.buffer (held ++ Output.spoken cs)) := by
  rw [callbacks, Output.callbacks_of_buffer ho]
  rfl

end Host

theorem Dialogue.unwind_of_buffer {ρ σ : Type} [Guest ρ σ] (g : ρ) (frames : List Nat) (m : σ)
    (held : Bytes) : ∃ m' text, ∀ h : Host, h.output.own = some (.buffer held) →
      ∃ h', unwind g frames ⟨m, h⟩ = ⟨m', h'⟩ ∧ h'.output.own = some (.buffer text) := by
  induction frames generalizing m held with
  | nil => exact ⟨m, held, fun h ho => ⟨h, rfl, ho⟩⟩
  | cons n frames ih =>
    obtain ⟨m', text, hrest⟩ := ih (Guest.call g (.unprotect n) m).memory
      (held ++ Output.spoken (Guest.call g (.unprotect n) m).callbacks)
    exact ⟨m', text, fun h ho => hrest _ (Host.own_callbacks ho _)⟩

/-- In whatever process, a dialogue whose console text is captured is answered the same, and leaves
the same memory and the same text. -/
theorem Dialogue.run_of_buffer {ρ σ α : Type} [Guest ρ σ] (g : ρ) (d : Dialogue α) (m : σ)
    (held : Bytes) : ∃ r m' text, ∀ h : Host, h.output.own = some (.buffer held) →
      ∃ h', d.run g ⟨m, h⟩ = (r, ⟨m', h'⟩) ∧ h'.output.own = some (.buffer text) := by
  induction d generalizing m held with
  | done a => exact ⟨.ok a, m, held, fun h ho => ⟨h, rfl, ho⟩⟩
  | note n d ih =>
    obtain ⟨r, m', text, hrun⟩ := ih m held
    exact ⟨r, m', text, fun h ho => hrun (h.note n) ho⟩
  | ask e frames k ih =>
    rcases hcall : Guest.call g e m with ⟨p | a, m₁, cs⟩
    · obtain ⟨m', text, hrest⟩ := unwind_of_buffer g frames m₁ (held ++ Output.spoken cs)
      refine ⟨.error p, m', text, fun h ho => ?_⟩
      obtain ⟨h', hunwind, ho'⟩ := hrest (h.callbacks cs) (Host.own_callbacks ho cs)
      refine ⟨h', ?_, ho'⟩
      simp only [run, World.call, hcall, hunwind]
    · obtain ⟨r, m', text, hrun⟩ := ih a m₁ (held ++ Output.spoken cs)
      refine ⟨r, m', text, fun h ho => ?_⟩
      obtain ⟨h', hrun', ho'⟩ := hrun (h.callbacks cs) (Host.own_callbacks ho cs)
      refine ⟨h', ?_, ho'⟩
      simp only [run, World.call, hcall]
      exact hrun'

namespace Session

variable {φ ρ σ α : Type} {s s' : Session φ ρ σ} {held : Bytes}

/-- The session with another own sink of its thread. -/
def withOwn (s : Session φ ρ σ) (own : Option Sink) : Session φ ρ σ :=
  { s with
    world := { s.world with
      host := { s.world.host with output := s.world.host.output.withOwn own } } }

/-- The session while console text is captured. -/
def listening (s : Session φ ρ σ) : Session φ ρ σ := s.withOwn (some (.buffer []))

/-- A capture gives what the buffer holds in the end, and puts the own sink back. -/
theorem captured_eq {op : Session φ ρ σ → Result φ ρ σ α} {r : Except Panic α}
    (hop : op s.listening = (r, s')) (ho : s'.world.host.output.own = some (.buffer held)) :
    captured op s = (Utf8.decodeLossy held, r, s'.withOwn s.world.host.output.own) := by
  have hcaptured : captured op s =
      (Utf8.decodeLossy ((op s.listening).2.world.host.output.closeCapture none).1,
        (op s.listening).1, (op s.listening).2.withOwn s.world.host.output.own) := rfl
  rw [hcaptured, hop, Output.closeCapture, ho]

end Session
end GuestRuntime
