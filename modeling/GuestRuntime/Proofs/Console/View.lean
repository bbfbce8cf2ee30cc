import GuestRuntime.Guest.Entry

/-!
The console apart from the journal. Where text goes and what recorders see does not depend on what
was remarked before, and a remark changes neither. Main statements: `Output.blind_callback` and
`Host.console_callbacks`.
-/

namespace GuestRuntime

namespace Output

/-- What sinks hold and recorders saw. -/
def console (o : Output) : Output := { o with journal := #[] }

/-- A change of the output that does not depend on the journal. -/
def Blind (f : Output → Output) : Prop :=
  ∀ ⦃o o' : Output⦄, o.console = o'.console → (f o).console = (f o').console

/-- A delivery that does not depend on the journal. -/
def BlindDelivery (f : Output → Delivery × Output) : Prop :=
  ∀ ⦃o o' : Output⦄, o.console = o'.console →
    (f o).1 = (f o').1 ∧ (f o).2.console = (f o').2.console

theorem console_eq_iff {o o' : Output} :
    o.console = o'.console ↔ o.shared = o'.shared ∧ o.own = o'.own ∧ o.events = o'.events := by
  simp [console]

@[simp] theorem console_note (o : Output) (n : Note) : (o.note n).console = o.console := rfl

theorem console_report (call : ConsoleCall) (r : Delivery × Output) :
    (report call r).console = r.2.console := by
  obtain ⟨d, o⟩ := r
  cases d <;> rfl

theorem BlindDelivery.report {f : Output → Delivery × Output} (hf : BlindDelivery f)
    (call : ConsoleCall) : Blind fun o => report call (f o) := by
  intro o o' h
  rw [console_report, console_report]
  exact (hf h).2

theorem blind_saw (es : List SinkEvent) : Blind (saw · es) := by
  intro o o' h
  obtain ⟨hs, ho, he⟩ := console_eq_iff.mp h
  exact console_eq_iff.mpr ⟨hs, ho, congrArg (· ++ es.toArray) he⟩

section Deliveries

variable {inside : Output → Callback → Output} (hi : ∀ c, Blind (inside · c))

include hi

theorem blind_foldl (cs : List Callback) : Blind (cs.foldl inside) := by
  intro o o' h
  induction cs generalizing o o' with
  | nil => exact h
  | cons c cs ih => exact ih (hi c h)

theorem blind_writeAll (name : String) (b : Behaviour) (text : Bytes) :
    BlindDelivery (writeAll inside name b text) :=
  fun _ _ h => ⟨rfl, blind_foldl hi _ (blind_saw ((b.portions text).map (.wrote name)) h)⟩

theorem blind_deliver (name : String) (b : Behaviour) (text : Bytes) :
    BlindDelivery (deliver inside name b text) := by
  intro o o' h
  obtain ⟨hd, hc⟩ := blind_writeAll hi name b text h
  unfold deliver
  rcases hw : writeAll inside name b text o with ⟨d, p⟩
  rcases hw' : writeAll inside name b text o' with ⟨d', p'⟩
  rw [hw, hw'] at hd hc
  obtain rfl : d = d' := hd
  cases d with
  | done => exact ⟨rfl, blind_saw [.flushed name] hc⟩
  | failed why => exact ⟨rfl, hc⟩
  | panicked => exact ⟨rfl, hc⟩

end Deliveries

theorem blind_toShared (text : Bytes) : BlindDelivery (toShared text) := by
  intro o o' h
  obtain ⟨hs, ho, he⟩ := console_eq_iff.mp h
  unfold toShared
  rw [← hs]
  cases o.shared with
  | buffer held => exact ⟨rfl, console_eq_iff.mpr ⟨rfl, ho, he⟩⟩
  | recorder name b => exact blind_deliver (fun _ _ _ h => h) name b text h

theorem blind_callbackElsewhere (c : Callback) : Blind (callbackElsewhere · c) := by
  intro o o' h
  unfold callbackElsewhere
  rcases textOf c with _ | ⟨call, text⟩
  · exact h
  · exact (blind_toShared text).report call h

theorem blind_emit (text : Bytes) : BlindDelivery (emit text) := by
  intro o o' h
  obtain ⟨hs, ho, he⟩ := console_eq_iff.mp h
  unfold emit
  rw [← ho]
  cases o.own with
  | none => exact blind_toShared text h
  | some s =>
    cases s with
    | buffer held => exact ⟨rfl, console_eq_iff.mpr ⟨hs, rfl, he⟩⟩
    | recorder name b => exact blind_deliver blind_callbackElsewhere name b text h

theorem blind_callback (c : Callback) : Blind (callback · c) := by
  intro o o' h
  unfold callback
  rcases textOf c with _ | ⟨call, text⟩
  · exact h
  · exact (blind_emit text).report call h

end Output

namespace Host

/-- What sinks hold and recorders saw. -/
def console (h : Host) : Output := h.output.console

@[simp] theorem console_note (h : Host) (n : Note) : (h.note n).console = h.console := rfl

theorem callbacks_append (h : Host) (cs cs' : List Callback) :
    h.callbacks (cs ++ cs') = (h.callbacks cs).callbacks cs' := by
  simp only [callbacks, List.foldl_append]

/-- What callbacks do to the console depends on the console alone. -/
theorem console_callbacks {h h' : Host} (cs : List Callback) (hc : h.console = h'.console) :
    (h.callbacks cs).console = (h'.callbacks cs).console :=
  Output.blind_foldl Output.blind_callback cs hc

end Host
end GuestRuntime
