import GuestRuntime.Console.Output
import GuestRuntime.Text.Utf8.Lemmas

/-!
Console output with its guards. The own sink is in a cell that is borrowed while it is written to,
the shared one behind a lock that is held meanwhile and that a panic poisons:

        write ──▶ cell free? ──yes──▶ borrow ──▶ own sink ──▶ give back
                    │ no, or empty                 │ panic ──▶ give back
                    ▼                              ▼
                  lock, poisoned or not ──▶ shared sink ──▶ unlock
                                               │ panic ──▶ poison, unlock

A text is written in a loop, what a write leaves being offered to the next, and a write may make
calls itself. Every callback gives back what it took, however it ended, and does to the sinks what
it does without guards. Only a shared sink that writes to the console itself must not be: its lock
is waited for by its holder. Main statements: `Guarded.callback_free` and `Guarded.callback_stuck`.
-/

namespace GuestRuntime

/-! ### Writes -/

/-- Whether a sink makes calls itself when it is written to. -/
def Sink.reenters : Sink → Bool
  | .recorder _ (.calls (_ :: _)) => true
  | _ => false

theorem Behaviour.calling_nil (b : Behaviour) : b.calling [] = [] := by cases b <;> rfl

theorem Sink.calling_eq_nil (name : String) {b : Behaviour}
    (h : (Sink.recorder name b).reenters = false) (text : Bytes) : b.calling text = [] := by
  cases b with
  | calls cs =>
    cases cs with
    | nil => cases text <;> rfl
    | cons c cs => cases h
  | _ => rfl

/-- What one write of a sink comes to. -/
inductive Write
  | took (count : Nat)
  | failed (why : String)
  | panicked
  deriving DecidableEq, Repr

namespace Behaviour

/-- What a write of these bytes comes to. -/
def write : Behaviour → Bytes → Write
  | broken, _ => .failed "closed"
  | panics, _ => .panicked
  | takesNone, _ => .took 0
  | takesOne, b => .took (min 1 b.length)
  | plain, b | flushFails, b | calls _, b => .took b.length

/-- The bytes that a write shows. -/
def shown : Behaviour → Bytes → Bytes
  | takesOne, b => b.take 1
  | _, b => b

end Behaviour

/-- Console output, who is writing to it, and whether somebody panicked while he held the lock. -/
structure Guarded where
  output : Output
  /-- Somebody writes to the own sink. -/
  borrowed : Bool := false
  /-- Somebody writes to the shared sink. -/
  locked : Bool := false
  poisoned : Bool := false

namespace Guarded

/-- Nobody is writing. -/
structure Free (g : Guarded) : Prop where
  returned : g.borrowed = false
  unlocked : g.locked = false

def saw (g : Guarded) (es : List SinkEvent) : Guarded := { g with output := g.output.saw es }

/-! What follows gives nothing where it would not come back as it should: it waits for a lock that
it holds itself, borrows what is borrowed, or writes are nested deeper than is looked at. -/

section Sinks

variable (again : Callback → Guarded → Option Guarded) (name : String) (b : Behaviour)

/-- One write of a recorder; `again` is what a call does that it makes itself. -/
def writeOnce (offer : Bytes) (g : Guarded) : Option (Write × Guarded) :=
  ((b.calling offer).foldlM (fun g c => again c g) (g.saw [.wrote name (b.shown offer)])).map
    ((b.write offer, ·))

/-- Writes until nothing is left. -/
def writeAll : Bytes → Guarded → Option (Delivery × Guarded)
  | [], g => some (.done, g)
  | c :: rest, g =>
    match writeOnce again name b (c :: rest) g with
    | none => none
    | some (.failed why, g) => some (.failed why, g)
    | some (.panicked, g) => some (.panicked, g)
    | some (.took 0, g) => some (.failed "failed to write whole buffer", g)
    | some (.took (n + 1), g) => writeAll ((c :: rest).drop (n + 1)) g
termination_by rest => rest.length
decreasing_by
  rw [List.drop_succ_cons, List.length_drop, List.length_cons]
  omega

/-- Writes a text and, if that succeeds, flushes once. -/
def deliver (text : Bytes) (g : Guarded) : Option (Delivery × Guarded) :=
  match writeAll again name b text g with
  | some (.done, g) => some (b.flushing, g.saw [.flushed name])
  | r => r

end Sinks

section Emit

variable (again : Callback → Guarded → Option Guarded)

/-- Writes to the own sink, if there is one and nobody is writing to it. -/
def toOwn (text : Bytes) (g : Guarded) : Option (Option Delivery × Guarded) :=
  if g.borrowed then some (none, g)
  else
    match g.output.own with
    | none => some (none, g)
    | some (.buffer held) =>
      some (some .done, { g with output := { g.output with own := some (.buffer (held ++ text)) } })
    | some (.recorder name b) =>
      (deliver again name b text { g with borrowed := true }).map fun (d, g) =>
        (some d, { g with borrowed := false })

/-- What the lock gives once nobody holds it: the sink, as an error if the lock is poisoned. -/
def lock? (g : Guarded) : Option (Except Sink Sink) :=
  if g.locked then none
  else some (if g.poisoned then .error g.output.shared else .ok g.output.shared)

/-- The shared sink, poisoned or not. -/
def acquire? (g : Guarded) : Option Sink :=
  match g.lock? with
  | none => none
  | some (.ok s) => some s
  | some (.error s) => some s

/-- Writes to the shared sink; a panic poisons its lock. -/
def toShared (text : Bytes) (g : Guarded) : Option (Delivery × Guarded) :=
  match g.acquire? with
  | none => none
  | some (.buffer held) =>
    some (.done, { g with output := { g.output with shared := .buffer (held ++ text) } })
  | some (.recorder name b) =>
    (deliver again name b text { g with locked := true }).map fun (d, g) =>
      (d, { g with locked := false, poisoned := g.poisoned || d = .panicked })

/-- Writes to the sink that a text belongs to. -/
def emit (text : Bytes) (g : Guarded) : Option (Delivery × Guarded) :=
  match toOwn again text g with
  | none => none
  | some (some d, g) => some (d, g)
  | some (none, g) => toShared again text g

end Emit

/-- A failure, or what unwinds, becomes one note. -/
def caught (call : ConsoleCall) : Delivery × Guarded → Guarded
  | (d, g) => { g with output := Output.report call (d, g.output) }

/-- A callback in which writes can be nested so deep. -/
def callback : Nat → Callback → Guarded → Option Guarded
  | 0, _, _ => none
  | depth + 1, c, g =>
    match Output.textOf c with
    | none => some g
    | some (call, text) => (emit (callback depth) text g).map (caught call)

/-- Gives the shared sink it replaces. -/
def setShared (s : Sink) (g : Guarded) : Option (Sink × Guarded) :=
  g.acquire?.map fun previous => (previous, { g with output := { g.output with shared := s } })

/-- Gives the own sink it replaces; nobody may be writing to it. -/
def setOwn (s : Option Sink) (g : Guarded) : Option (Option Sink × Guarded) :=
  if g.borrowed then none
  else some (g.output.own, { g with output := { g.output with own := s } })

/-! ### The loop -/

variable {again : Callback → Guarded → Option Guarded} {inside : Output → Callback → Output}
  {name : String} {b : Behaviour} {text : Bytes} {cs : List Callback} {o : Output}
  {borrowed locked poisoned : Bool}

theorem saw_nil (g : Guarded) : g.saw [] = g := by simp [saw, Output.saw]

theorem saw_saw (g : Guarded) (es es' : List SinkEvent) :
    (g.saw es).saw es' = g.saw (es ++ es') := by
  simp [saw, Output.saw]

theorem writeAll_nil (g : Guarded) : writeAll again name b [] g = some (.done, g) := by
  rw [writeAll]

/-- A write that takes all it is offered is the only one. -/
theorem writeAll_of_all {g g' : Guarded} {c : UInt8} {rest : Bytes}
    (hw : writeOnce again name b (c :: rest) g = some (.took (c :: rest).length, g')) :
    writeAll again name b (c :: rest) g = some (.done, g') := by
  rw [writeAll, hw, List.length_cons]
  simp only
  rw [List.drop_succ_cons, List.drop_length, writeAll_nil]

/-- A sink that takes one byte at a time is written to byte by byte. -/
theorem writeAll_takesOne (g : Guarded) : writeAll again name .takesOne text g =
    some (.done, g.saw ((Behaviour.takesOne.portions text).map (.wrote name))) := by
  induction text generalizing g with
  | nil => rw [writeAll_nil, Behaviour.portions, List.map_nil, saw_nil]
  | cons c rest ih =>
    have hw : writeOnce again name .takesOne (c :: rest) g =
        some (.took 1, g.saw [.wrote name [c]]) := by
      simp [writeOnce, Behaviour.shown, Behaviour.write, Behaviour.calling]
    rw [writeAll, hw]
    simp only [List.drop_succ_cons, List.drop_zero]
    rw [ih, saw_saw]
    cases rest <;> rfl

/-! ### What guards do not change -/

/-- These calls from inside a sink do to the output what `inside` does, whoever has panicked
before, and give back what they took; the shared sink still makes none itself. -/
def Nests (again : Callback → Guarded → Option Guarded) (inside : Output → Callback → Output)
    (borrowed locked : Bool) (cs : List Callback) : Prop :=
  ∀ o poisoned, o.shared.reenters = false → ∃ poisoned',
    cs.foldlM (fun g c => again c g) ⟨o, borrowed, locked, poisoned⟩ =
      some ⟨cs.foldl inside o, borrowed, locked, poisoned'⟩

theorem nests_nil : Nests again inside borrowed locked [] := fun _ poisoned _ => ⟨poisoned, rfl⟩

/-- One call more before others. -/
theorem Nests.cons {c : Callback}
    (hc : ∀ o poisoned, o.shared.reenters = false → (inside o c).shared.reenters = false ∧
      ∃ poisoned', again c ⟨o, borrowed, locked, poisoned⟩ =
        some ⟨inside o c, borrowed, locked, poisoned'⟩)
    (h : Nests again inside borrowed locked cs) : Nests again inside borrowed locked (c :: cs) := by
  intro o poisoned hs
  obtain ⟨hs', poisoned₁, hagain⟩ := hc o poisoned hs
  obtain ⟨poisoned₂, hrest⟩ := h (inside o c) poisoned₁ hs'
  refine ⟨poisoned₂, ?_⟩
  rw [List.foldlM_cons, hagain]
  exact hrest

section Delivery

variable (name : String) (text : Bytes) (poisoned : Bool) (hs : o.shared.reenters = false)
  (h : Nests again inside borrowed locked (b.calling text))

include hs h

theorem writeAll_eq : ∃ poisoned', writeAll again name b text ⟨o, borrowed, locked, poisoned⟩ =
    some ((Output.writeAll inside name b text o).1,
      ⟨(Output.writeAll inside name b text o).2, borrowed, locked, poisoned'⟩) := by
  cases text with
  | nil =>
    refine ⟨poisoned, ?_⟩
    rw [writeAll_nil]
    simp [Output.writeAll, Behaviour.portions, Behaviour.writing, Output.saw, b.calling_nil]
  | cons c rest =>
    cases b with
    | plain | flushFails => exact ⟨poisoned, writeAll_of_all rfl⟩
    | broken | panics | takesNone =>
      refine ⟨poisoned, ?_⟩
      rw [writeAll]
      rfl
    | takesOne =>
      refine ⟨poisoned, ?_⟩
      rw [writeAll_takesOne]
      rfl
    | calls cs =>
      obtain ⟨poisoned', hagain⟩ := h (o.saw [.wrote name (c :: rest)]) poisoned hs
      refine ⟨poisoned', writeAll_of_all ?_⟩
      exact congrArg (Option.map _) hagain

theorem deliver_eq : ∃ poisoned', deliver again name b text ⟨o, borrowed, locked, poisoned⟩ =
    some ((Output.deliver inside name b text o).1,
      ⟨(Output.deliver inside name b text o).2, borrowed, locked, poisoned'⟩) := by
  obtain ⟨poisoned', hwrites⟩ := writeAll_eq name text poisoned hs h
  refine ⟨poisoned', ?_⟩
  rw [deliver, hwrites, Output.deliver]
  rcases Output.writeAll inside name b text o with ⟨d, o'⟩
  cases d <;> rfl

end Delivery

/-- The lock is taken, poisoned or not. -/
theorem acquire?_eq : acquire? ⟨o, borrowed, false, poisoned⟩ = some o.shared := by
  cases poisoned <;> rfl

/-- Whoever has panicked before, and whether or not the text comes from inside the own sink. -/
theorem toShared_eq (again : Callback → Guarded → Option Guarded) (text : Bytes)
    (borrowed poisoned : Bool) (hs : o.shared.reenters = false) :
    ∃ poisoned', toShared again text ⟨o, borrowed, false, poisoned⟩ =
      some ((o.toShared text).1, ⟨(o.toShared text).2, borrowed, false, poisoned'⟩) := by
  rw [toShared, acquire?_eq, Output.toShared]
  cases hshared : o.shared with
  | buffer held => exact ⟨poisoned, rfl⟩
  | recorder name b =>
    have hcalm : Nests again (fun o _ => o) borrowed true (b.calling text) := by
      rw [Sink.calling_eq_nil name (hshared ▸ hs)]
      exact nests_nil
    obtain ⟨poisoned', hdeliver⟩ := deliver_eq name text poisoned hs hcalm
    simp only [hdeliver, Option.map_some]
    exact ⟨_, rfl⟩

/-- A calm shared sink stays the same, or is a buffer that holds more. -/
theorem reenters_toShared (text : Bytes) (hs : o.shared.reenters = false) :
    (o.toShared text).2.shared.reenters = false := by
  rw [Output.toShared]
  cases hshared : o.shared with
  | buffer held => rfl
  | recorder name b =>
    have hcalm : b.calling text = [] := Sink.calling_eq_nil name (hshared ▸ hs) text
    simp only [Output.deliver, Output.writeAll, hcalm, List.foldl_nil]
    rw [hshared] at hs
    cases b.writing text <;> simpa [Output.saw, hshared] using hs

/-- From inside the own sink the console writes to the shared one; the own sink stays borrowed. -/
theorem callback_borrowed (depth : Nat) (c : Callback) (poisoned : Bool)
    (hs : o.shared.reenters = false) :
    (o.callbackElsewhere c).shared.reenters = false ∧
      ∃ poisoned', callback (depth + 1) c ⟨o, true, false, poisoned⟩ =
        some ⟨o.callbackElsewhere c, true, false, poisoned'⟩ := by
  rw [callback, Output.callbackElsewhere]
  rcases Output.textOf c with _ | ⟨call, text⟩
  · exact ⟨hs, poisoned, rfl⟩
  · have hcalm := reenters_toShared text hs
    obtain ⟨poisoned', hshared⟩ := toShared_eq (callback depth) text true poisoned hs
    simp only [emit, toOwn, if_true, hshared, Option.map_some, caught]
    refine ⟨?_, poisoned', rfl⟩
    rcases hd : o.toShared text with ⟨d, o'⟩
    rw [hd] at hcalm
    cases d <;> exact hcalm

theorem nests_callback (depth : Nat) (cs : List Callback) :
    Nests (callback (depth + 1)) Output.callbackElsewhere true false cs := by
  induction cs with
  | nil => exact nests_nil
  | cons c cs ih => exact .cons (fun _ poisoned hs => callback_borrowed depth c poisoned hs) ih

theorem emit_eq (text : Bytes) (poisoned : Bool) (hs : o.shared.reenters = false)
    (hn : ∀ cs, Nests again Output.callbackElsewhere true false cs) :
    ∃ poisoned', emit again text ⟨o, false, false, poisoned⟩ =
      some ((o.emit text).1, ⟨(o.emit text).2, false, false, poisoned'⟩) := by
  rw [emit, toOwn, Output.emit]
  cases hown : o.own with
  | none => exact toShared_eq again text false poisoned hs
  | some s =>
    cases s with
    | buffer held => exact ⟨poisoned, rfl⟩
    | recorder name b =>
      obtain ⟨poisoned', hdeliver⟩ := deliver_eq (b := b) name text poisoned hs (hn _)
      simp only [Bool.false_eq_true, if_false, hdeliver, Option.map_some]
      exact ⟨poisoned', rfl⟩

/-- A callback when nobody is writing comes back, leaves nobody writing, and does to the output
what it does without guards. -/
theorem callback_free (depth : Nat) {g : Guarded} (hg : g.Free)
    (hs : g.output.shared.reenters = false) (c : Callback) :
    ∃ poisoned', callback (depth + 2) c g =
      some ⟨g.output.callback c, false, false, poisoned'⟩ := by
  obtain ⟨o, borrowed, locked, poisoned⟩ := g
  obtain ⟨rfl, rfl⟩ := hg
  rw [callback, Output.callback]
  rcases Output.textOf c with _ | ⟨call, text⟩
  · exact ⟨poisoned, rfl⟩
  · obtain ⟨poisoned', hemit⟩ := emit_eq text poisoned hs (nests_callback depth)
    refine ⟨poisoned', ?_⟩
    simp only [hemit, Option.map_some, caught]

/-! ### A shared sink that writes to the console -/

/-- Whoever holds the lock waits for itself. -/
theorem callback_locked (depth : Nat) {g : Guarded} {c : Callback} {call : ConsoleCall}
    (htext : Output.textOf c = some (call, text)) (hown : g.output.own = none)
    (hlocked : g.locked = true) : callback depth c g = none := by
  have hlock : g.acquire? = none := by rw [acquire?, lock?, if_pos hlocked]
  cases depth with
  | zero => rfl
  | succ depth =>
    rw [callback, htext]
    simp only [emit, toOwn, hown, ite_self, toShared, hlock, Option.map_none]

/-- Of the calls that a sink makes under the lock, the first with a text does not come back. -/
theorem callbacks_locked (depth : Nat) {g : Guarded} (hown : g.output.own = none)
    (hlocked : g.locked = true) (htext : ∃ c ∈ cs, (Output.textOf c).isSome) :
    cs.foldlM (fun g c => callback depth c g) g = none := by
  induction cs with
  | nil => simp at htext
  | cons c cs ih =>
    rw [List.foldlM_cons]
    rcases hc : Output.textOf c with _ | ⟨call, text⟩
    · cases depth with
      | zero => rfl
      | succ depth =>
        have hstay : callback (depth + 1) c g = some g := by rw [callback, hc]
        rw [hstay]
        exact ih (by simpa [hc] using htext)
    · rw [callback_locked depth hc hown hlocked]
      rfl

/-- A text for a shared sink that writes to the console itself never arrives, however deep. -/
theorem callback_stuck (depth : Nat) {g : Guarded} (hg : g.Free) {c : Callback} {call : ConsoleCall}
    (htext : Output.textOf c = some (call, text)) (hne : text ≠ []) (hown : g.output.own = none)
    (hshared : g.output.shared = .recorder name (.calls cs))
    (hwrites : ∃ c ∈ cs, (Output.textOf c).isSome) : callback depth c g = none := by
  obtain ⟨o, borrowed, locked, poisoned⟩ := g
  obtain ⟨rfl, rfl⟩ := hg
  obtain ⟨first, rest, rfl⟩ := List.exists_cons_of_ne_nil hne
  cases depth with
  | zero => rfl
  | succ depth =>
    -- The write from inside finds the lock taken.
    have hinside : cs.foldlM (fun g c => callback depth c g)
        (saw ⟨o, false, true, poisoned⟩ [.wrote name (first :: rest)]) = none :=
      callbacks_locked depth hown rfl hwrites
    have hwrite : writeOnce (callback depth) name (.calls cs) (first :: rest)
        ⟨o, false, true, poisoned⟩ = none := congrArg (Option.map _) hinside
    change o.own = none at hown
    change o.shared = .recorder name (.calls cs) at hshared
    rw [callback, htext]
    simp only [emit, toOwn, hown, ite_self, toShared, acquire?_eq, hshared, deliver]
    rw [writeAll, hwrite]
    rfl

/-- A message for a shared sink that writes a text of its own. -/
example (depth : Nat) : callback depth (.message (some [97]))
    ⟨{ shared := .recorder "all" .reenters }, false, false, false⟩ = none :=
  callback_stuck depth ⟨rfl, rfl⟩ rfl (List.cons_ne_nil _ _) rfl rfl
    ⟨_, List.mem_cons_self, rfl⟩

end Guarded
end GuestRuntime
