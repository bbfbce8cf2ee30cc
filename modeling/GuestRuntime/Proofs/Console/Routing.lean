import GuestRuntime.Proofs.Console.Guards
import Mathlib.Data.List.Forall2

/-!
Where console text goes, over any sequence of changes of the sinks and callbacks. The text of a
callback goes whole to one sink, and the other sees nothing of it:

        text ──▶ own sink, if there is one ──▶ writes, flush
          └────▶ else the shared one       ──▶ writes, flush

An own sink may make any calls itself when it is written to: their texts go to the shared sink. A
sink that fails or panics is one error in the journal; the texts after it go where they would have
gone, and whoever replaces a sink is given the one that was put there before. Main statement:
`performAll_routed`.
-/

namespace GuestRuntime

/-! ### One text and one sink -/

namespace Sink

/-- What is seen of a text that is handed over: its writes, and a flush once all is written. -/
def shows : Sink → Bytes → List SinkEvent
  | buffer _, _ => []
  | recorder name b, text =>
    (b.portions text).map (.wrote name) ++ if b.writing text = .done then [.flushed name] else []

/-- How handing it over ends. -/
def ends : Sink → Bytes → Delivery
  | buffer _, _ => .done
  | recorder _ b, text => if b.writing text = .done then b.flushing else b.writing text

/-- The sink afterwards. -/
def keeps : Sink → Bytes → Sink
  | buffer held, text => buffer (held ++ text)
  | s, _ => s

/-- The same sink later, with what it has been handed since. -/
def Becomes (s s' : Sink) : Prop := ∃ since, s' = s.keeps since

variable {s s' s'' : Sink}

theorem keeps_nil (s : Sink) : s.keeps [] = s := by
  cases s with
  | buffer held => rw [keeps, List.append_nil]
  | recorder name b => rfl

theorem keeps_keeps (s : Sink) (text text' : Bytes) :
    (s.keeps text).keeps text' = s.keeps (text ++ text') := by
  cases s with
  | buffer held => simp only [keeps, List.append_assoc]
  | recorder name b => rfl

theorem reenters_keeps (s : Sink) (text : Bytes) : (s.keeps text).reenters = s.reenters := by
  cases s <;> rfl

theorem Becomes.refl (s : Sink) : s.Becomes s := ⟨[], s.keeps_nil.symm⟩

theorem Becomes.trans (h : s.Becomes s') (h' : s'.Becomes s'') : s.Becomes s'' := by
  obtain ⟨since, rfl⟩ := h
  obtain ⟨since', rfl⟩ := h'
  exact ⟨since ++ since', s.keeps_keeps since since'⟩

theorem rel_refl (s : Option Sink) : Option.Rel Becomes s s := by
  cases s with
  | none => exact .none
  | some s => exact .some (.refl s)

theorem rel_trans {s s' s'' : Option Sink} (h : Option.Rel Becomes s s')
    (h' : Option.Rel Becomes s' s'') : Option.Rel Becomes s s'' := by
  cases h with
  | none => exact h'
  | some hs =>
    cases h' with
    | some hs' => exact .some (hs.trans hs')

/-- A text that is handed over with success is seen whole, in portions, and then flushed once. -/
theorem shows_of_done {name : String} {b : Behaviour} {text : Bytes}
    (h : (recorder name b).ends text = .done) : ∃ portions : List Bytes,
      portions.flatten = text ∧
        (recorder name b).shows text = portions.map (.wrote name) ++ [.flushed name] := by
  have hwriting : b.writing text = .done := by
    refine Decidable.byContradiction fun hne => ?_
    rw [ends, if_neg hne] at h
    exact hne h
  refine ⟨b.portions text, ?_, by rw [shows, if_pos hwriting]⟩
  cases text with
  | nil => cases b <;> rfl
  | cons c rest =>
    cases b with
    | broken | panics | takesNone => cases hwriting
    | takesOne => simp [Behaviour.portions, ← List.flatMap_def]
    | plain | flushFails | calls => simp [Behaviour.portions]

end Sink

/-- What the journal says of a delivery: nothing, or one error. -/
def notesOf (call : ConsoleCall) : Delivery → List Note
  | .done => []
  | .failed why => [.consoleFailed call why]
  | .panicked => [.consolePanicked call]

theorem level_of_mem_notesOf {call : ConsoleCall} {d : Delivery} {n : Note}
    (h : n ∈ notesOf call d) : n.level = .error := by
  cases d with
  | done => cases h
  | failed why | panicked =>
    rw [List.mem_singleton.mp h]
    rfl

namespace Output

/-! ### One callback -/

/-- More was seen and noted. -/
def heard (o : Output) (es : List SinkEvent) (ns : List Note) : Output :=
  { o with events := o.events ++ es.toArray, journal := o.journal ++ ns.toArray }

/-- What comes of a call whose text is for the shared sink. -/
inductive Shares (o : Output) (c : Callback) : Output → Prop
  /-- Without text no sink is touched. -/
  | silent (htext : textOf c = none) : Shares o c o
  | handed {call text} (htext : textOf c = some (call, text)) :
    Shares o c ({ o with shared := o.shared.keeps text }.heard
      (o.shared.shows text) (notesOf call (o.shared.ends text)))

/-- Such calls in order. -/
inductive SharesAll : Output → List Callback → Output → Prop
  | nil {o} : SharesAll o [] o
  | cons {o c o₁ cs o₂} (hc : Shares o c o₁) (hcs : SharesAll o₁ cs o₂) : SharesAll o (c :: cs) o₂

/-- Where the text of a callback goes, and what comes of it. -/
inductive Handles (o : Output) (c : Callback) : Output → Prop
  | shared {o₁} (hown : o.own = none) (hc : Shares o c o₁) : Handles o c o₁
  /-- Without text no sink is touched. -/
  | silent (htext : textOf c = none) : Handles o c o
  | own {call text s} (htext : textOf c = some (call, text)) (hown : o.own = some s)
      (hcalm : s.reenters = false ∨ text = []) :
    Handles o c ({ o with own := some (s.keeps text) }.heard
      (s.shows text) (notesOf call (s.ends text)))
  /-- The own sink makes calls of its own, whose texts are for the shared one, before it takes the
  callback's. -/
  | nested {call text name cs o₁} (htext : textOf c = some (call, text))
      (hown : o.own = some (.recorder name (.calls cs))) (hne : text ≠ [])
      (hcs : SharesAll (o.heard [.wrote name text] []) cs o₁) :
    Handles o c (o₁.heard [.flushed name] [])

variable {o o₁ : Output} {text : Bytes} {c : Callback} {cs : List Callback}

theorem report_eq (call : ConsoleCall) (d : Delivery) (es : List SinkEvent) :
    report call (d, o.saw es) = o.heard es (notesOf call d) := by
  cases d <;> simp [report, saw, heard, notesOf, note]

theorem saw_eq (o : Output) (es : List SinkEvent) : o.saw es = o.heard es [] := by
  simp [saw, heard]

/-- Where a sink makes no calls itself, nothing is done but what it shows. -/
theorem deliver_calm (inside : Output → Callback → Output) {name : String} {b : Behaviour}
    (h : b.calling text = []) : deliver inside name b text o =
      ((Sink.recorder name b).ends text, o.saw ((Sink.recorder name b).shows text)) := by
  rw [deliver, writeAll, h, Sink.ends, Sink.shows]
  cases b.writing text with
  | done => simp [saw]
  | failed why | panicked => simp

theorem toShared_eq (hs : o.shared.reenters = false) : o.toShared text =
    (o.shared.ends text, { o with shared := o.shared.keeps text }.saw (o.shared.shows text)) := by
  rw [toShared]
  cases hshared : o.shared with
  | buffer held => simp [Sink.ends, Sink.shows, Sink.keeps, saw]
  | recorder name b =>
    have hcalm : b.calling text = [] := Sink.calling_eq_nil name (hshared ▸ hs) text
    simp only [deliver_calm _ hcalm, Sink.keeps, ← hshared]

theorem callbackElsewhere_shares (hs : o.shared.reenters = false) (c : Callback) :
    Shares o c (o.callbackElsewhere c) := by
  rw [callbackElsewhere]
  rcases htext : textOf c with _ | ⟨call, text⟩
  · exact .silent htext
  · simp only [toShared_eq hs, report_eq]
    exact .handed htext

theorem Shares.shared_becomes (h : Shares o c o₁) : o.shared.Becomes o₁.shared := by
  cases h with
  | silent => exact .refl _
  | @handed _ text => exact ⟨text, rfl⟩

theorem Shares.own_eq (h : Shares o c o₁) : o₁.own = o.own := by cases h <;> rfl

theorem SharesAll.shared_becomes (h : SharesAll o cs o₁) : o.shared.Becomes o₁.shared := by
  induction h with
  | nil => exact .refl _
  | cons hc _ ih => exact hc.shared_becomes.trans ih

theorem SharesAll.own_eq (h : SharesAll o cs o₁) : o₁.own = o.own := by
  induction h with
  | nil => rfl
  | cons hc _ ih => exact ih.trans hc.own_eq

theorem Shares.calm (h : Shares o c o₁) (hs : o.shared.reenters = false) :
    o₁.shared.reenters = false := by
  obtain ⟨since, heq⟩ := h.shared_becomes
  rw [heq, Sink.reenters_keeps, hs]

/-- The calls from inside the own sink reach the shared one in order. -/
theorem foldl_shares (hs : o.shared.reenters = false) (cs : List Callback) :
    SharesAll o cs (cs.foldl callbackElsewhere o) := by
  induction cs generalizing o with
  | nil => exact .nil
  | cons c cs ih =>
    have hc := callbackElsewhere_shares hs c
    exact .cons hc (ih (hc.calm hs))

theorem deliver_calls (inside : Output → Callback → Output) {name : String} (hne : text ≠ []) :
    deliver inside name (.calls cs) text o =
      (.done, (cs.foldl inside (o.heard [.wrote name text] [])).heard [.flushed name] []) := by
  obtain ⟨c, rest, rfl⟩ := List.exists_cons_of_ne_nil hne
  rw [← saw_eq, ← saw_eq]
  rfl

theorem callback_handles (hs : o.shared.reenters = false) (c : Callback) :
    Handles o c (o.callback c) := by
  rcases hown : o.own with _ | ⟨name, b⟩ | held
  · have helse : o.callback c = o.callbackElsewhere c := by
      simp only [callback, callbackElsewhere, emit, hown]
    rw [helse]
    exact .shared hown (callbackElsewhere_shares hs c)
  all_goals
    rw [callback]
    rcases htext : textOf c with _ | ⟨call, text⟩
    · exact .silent htext
    simp only [emit, hown]
  · by_cases hcalm : (Sink.recorder name b).reenters = false ∨ text = []
    · have hsame : { o with own := some ((Sink.recorder name b).keeps text) } = o := by
        show { o with own := some (.recorder name b) } = o
        rw [← hown]
      have howns := Handles.own htext hown hcalm
      rw [hsame] at howns
      have hnone : b.calling text = [] := hcalm.elim (Sink.calling_eq_nil name · text) fun htext =>
        htext ▸ b.calling_nil
      simp only [deliver_calm _ hnone, report_eq]
      exact howns
    · obtain ⟨hcalls, hne⟩ := not_or.mp hcalm
      obtain ⟨cs, rfl⟩ : ∃ cs, b = .calls cs := by
        cases b with
        | calls cs => exact ⟨cs, rfl⟩
        | _ => exact absurd rfl hcalls
      have hcs := foldl_shares (o := o.heard [.wrote name text] []) hs cs
      simp only [deliver_calls _ hne, report]
      exact .nested htext hown hne hcs
  · have hbuffer : report call (.done, { o with own := some (.buffer (held ++ text)) }) =
        { o with own := some ((Sink.buffer held).keeps text) }.heard
          ((Sink.buffer held).shows text) (notesOf call ((Sink.buffer held).ends text)) := by
      simp [report, heard, Sink.keeps, Sink.shows, Sink.ends, notesOf]
    simp only [hbuffer]
    exact .own htext hown (.inl rfl)

theorem Handles.shared_becomes (h : Handles o c o₁) : o.shared.Becomes o₁.shared := by
  cases h with
  | silent | own => exact .refl _
  | shared _ hc => exact hc.shared_becomes
  | nested _ _ _ hcs => exact hcs.shared_becomes

theorem Handles.own_becomes (h : Handles o c o₁) : Option.Rel Sink.Becomes o.own o₁.own := by
  cases h with
  | silent => exact Sink.rel_refl _
  | shared _ hc => exact hc.own_eq ▸ Sink.rel_refl _
  | nested _ _ _ hcs => exact hcs.own_eq.symm ▸ Sink.rel_refl _
  | @own _ text s _ hown =>
    rw [hown]
    exact .some ⟨text, rfl⟩

end Output

/-! ### Whole runs -/

/-- What a thread can ask of the console. -/
inductive Request
  | setShared (s : Sink)
  | setOwn (s : Option Sink)
  | call (c : Callback)

/-- The answer: the sink that was replaced, or nothing. -/
inductive Returned
  | shared (previous : Sink)
  | own (previous : Option Sink)
  | nothing

namespace Output

def perform (o : Output) : Request → Returned × Output
  | .setShared s => Prod.map .shared id (o.setShared s)
  | .setOwn s => Prod.map .own id (o.setOwn s)
  | .call c => (.nothing, o.callback c)

def performAll (o : Output) : List Request → List Returned × Output
  | [] => ([], o)
  | r :: rs => Prod.map ((o.perform r).1 :: ·) id ((o.perform r).2.performAll rs)

end Output

namespace Guarded

/-- Nothing if the request does not come back. -/
def perform (depth : Nat) (g : Guarded) : Request → Option (Returned × Guarded)
  | .setShared s => (g.setShared s).map (Prod.map .shared id)
  | .setOwn s => (g.setOwn s).map (Prod.map .own id)
  | .call c => (callback depth c g).map ((.nothing, ·))

def performAll (depth : Nat) (g : Guarded) : List Request → Option (List Returned × Guarded)
  | [] => some ([], g)
  | r :: rs =>
    match g.perform depth r with
    | none => none
    | some (reply, g) => (g.performAll depth rs).map (Prod.map (reply :: ·) id)

end Guarded

namespace Output

/-- A run in which every text goes where it belongs. -/
inductive Follows : Output → List Request → List Returned → Output → Prop
  | done {o} : Follows o [] [] o
  | setShared {o s rs returns o'} (h : Follows { o with shared := s } rs returns o') :
    Follows o (.setShared s :: rs) (.shared o.shared :: returns) o'
  | setOwn {o s rs returns o'} (h : Follows { o with own := s } rs returns o') :
    Follows o (.setOwn s :: rs) (.own o.own :: returns) o'
  | call {o c o₁ rs returns o'} (hc : Handles o c o₁) (h : Follows o₁ rs returns o') :
    Follows o (.call c :: rs) (.nothing :: returns) o'

/-- The shared sinks that a run puts there, in order. -/
def sharedPut : List Request → List Sink :=
  List.filterMap fun
    | .setShared s => some s
    | _ => none

def sharedGiven : List Returned → List Sink :=
  List.filterMap fun
    | .shared s => some s
    | _ => none

/-- The own sinks that a run puts there, in order, or that there is to be none. -/
def ownPut : List Request → List (Option Sink) :=
  List.filterMap fun
    | .setOwn s => some s
    | _ => none

def ownGiven : List Returned → List (Option Sink) :=
  List.filterMap fun
    | .own s => some s
    | _ => none

variable {o o' : Output} {rs : List Request} {returns : List Returned}

theorem forall₂_cons_of_imp {α β : Type} {R : α → β → Prop} {a a' : α} {l : List α} {u : List β}
    (h : List.Forall₂ R (a' :: l) u) (hR : ∀ b, R a' b → R a b) : List.Forall₂ R (a :: l) u := by
  obtain ⟨first, rest, hfirst, hrest, rfl⟩ := List.forall₂_cons_left_iff.mp h
  exact .cons (hR first hfirst) hrest

/-- The shared sinks are given back in the order in which they were put, and the last one stays. -/
theorem Follows.shared (h : Follows o rs returns o') : List.Forall₂ Sink.Becomes
    (o.shared :: sharedPut rs) (sharedGiven returns ++ [o'.shared]) := by
  induction h with
  | done => exact .cons (.refl _) .nil
  | setShared _ ih => exact .cons (.refl _) ih
  | setOwn _ ih => exact ih
  | call hc _ ih =>
    exact forall₂_cons_of_imp ih fun _ => hc.shared_becomes.trans

theorem Follows.own (h : Follows o rs returns o') : List.Forall₂ (Option.Rel Sink.Becomes)
    (o.own :: ownPut rs) (ownGiven returns ++ [o'.own]) := by
  induction h with
  | done => exact .cons (Sink.rel_refl _) .nil
  | setShared _ ih => exact ih
  | setOwn _ ih => exact .cons (Sink.rel_refl _) ih
  | call hc _ ih =>
    exact forall₂_cons_of_imp ih fun _ => Sink.rel_trans hc.own_becomes

/-- One request more before a run. -/
theorem Follows.cons (hs : o.shared.reenters = false) (r : Request)
    (h : Follows (o.perform r).2 rs returns o') :
    Follows o (r :: rs) ((o.perform r).1 :: returns) o' := by
  cases r with
  | setShared s => exact .setShared h
  | setOwn s => exact .setOwn h
  | call c => exact .call (callback_handles hs c) h

/-- No request makes the shared sink write to the console, unless it puts there one that does. -/
theorem calm_perform {r : Request}
    (hs : ∀ s ∈ o.shared :: sharedPut (r :: rs), s.reenters = false) :
    ∀ s ∈ (o.perform r).2.shared :: sharedPut rs, s.reenters = false := by
  cases r with
  | setShared s => exact fun s' hs' => hs s' (List.mem_cons_of_mem _ hs')
  | setOwn s => exact hs
  | call c =>
    have ho := hs _ List.mem_cons_self
    obtain ⟨since, heq⟩ := (callback_handles ho c).shared_becomes
    refine List.forall_mem_cons.mpr ⟨?_, (List.forall_mem_cons.mp hs).2⟩
    show (o.callback c).shared.reenters = false
    rw [heq, Sink.reenters_keeps, ho]

end Output

namespace Guarded

variable {g : Guarded} {rs : List Request}

/-- One request when nobody is writing comes back and leaves nobody writing. -/
theorem perform_free (depth : Nat) (hg : g.Free) (hs : g.output.shared.reenters = false)
    (r : Request) : ∃ poisoned, g.perform (depth + 2) r =
      some ((g.output.perform r).1, ⟨(g.output.perform r).2, false, false, poisoned⟩) := by
  cases r with
  | call c =>
    obtain ⟨poisoned, hcall⟩ := callback_free depth hg hs c
    exact ⟨poisoned, by rw [perform, hcall]; rfl⟩
  | setShared s =>
    obtain ⟨o, borrowed, locked, poisoned⟩ := g
    obtain ⟨rfl, rfl⟩ := hg
    exact ⟨poisoned, by rw [perform, setShared, acquire?_eq]; rfl⟩
  | setOwn s =>
    obtain ⟨o, borrowed, locked, poisoned⟩ := g
    obtain ⟨rfl, rfl⟩ := hg
    exact ⟨poisoned, rfl⟩

theorem performAll_free (depth : Nat) (hg : g.Free)
    (hs : ∀ s ∈ g.output.shared :: Output.sharedPut rs, s.reenters = false) :
    ∃ returns g', g.performAll (depth + 2) rs = some (returns, g') ∧ g'.Free ∧
      g.output.performAll rs = (returns, g'.output) ∧
      Output.Follows g.output rs returns g'.output := by
  induction rs generalizing g with
  | nil => exact ⟨[], g, rfl, hg, rfl, .done⟩
  | cons r rs ih =>
    have ho : g.output.shared.reenters = false := hs _ List.mem_cons_self
    obtain ⟨poisoned, hr⟩ := perform_free depth hg ho r
    obtain ⟨returns, g', hrs, hfree, houtput, hfollows⟩ :=
      ih (g := ⟨(g.output.perform r).2, false, false, poisoned⟩) ⟨rfl, rfl⟩ (Output.calm_perform hs)
    refine ⟨(g.output.perform r).1 :: returns, g', ?_, hfree, ?_, hfollows.cons ho r⟩
    · rw [performAll, hr]
      simp only [hrs]
      rfl
    · rw [Output.performAll, houtput]
      rfl

end Guarded

/-- What is true of a run that starts with nobody writing: it comes back with nobody writing, having
done what is done without guards; every text went where it belongs; and every sink that was replaced
was given back. -/
structure Routed (g : Guarded) (rs : List Request) (returns : List Returned) (g' : Guarded) :
    Prop where
  free : g'.Free
  output : g.output.performAll rs = (returns, g'.output)
  follows : Output.Follows g.output rs returns g'.output
  shared : List.Forall₂ Sink.Becomes
    (g.output.shared :: Output.sharedPut rs) (Output.sharedGiven returns ++ [g'.output.shared])
  own : List.Forall₂ (Option.Rel Sink.Becomes)
    (g.output.own :: Output.ownPut rs) (Output.ownGiven returns ++ [g'.output.own])

namespace Guarded

/-- Whatever is asked of the console, and whichever sinks fail or panic meanwhile. -/
theorem performAll_routed (depth : Nat) {g : Guarded} (hg : g.Free) {rs : List Request}
    (hs : ∀ s ∈ g.output.shared :: Output.sharedPut rs, s.reenters = false) :
    ∃ returns g', g.performAll (depth + 2) rs = some (returns, g') ∧ Routed g rs returns g' := by
  obtain ⟨returns, g', hrun, hfree, houtput, hfollows⟩ := performAll_free depth hg hs
  exact ⟨returns, g', hrun, hfree, houtput, hfollows, hfollows.shared, hfollows.own⟩

/-- A console whose shared sink panics when it is written to. -/
def brittle : Guarded := ⟨{ shared := .recorder "all" .panics }, false, false, false⟩

/-- Two texts reach it: one that an own sink writes itself, and one of a guest. -/
def brittleRequests : List Request :=
  [.setOwn (some (.recorder "own" (.calls [.busy, .message (some [120])]))),
    .call (.message (some [97])), .setOwn none, .call (.message (some [98])),
    .setShared (.buffer [])]

/-- Both panics are noted, and in the end the sink is given back. -/
theorem performAll_routed_brittle :
    brittle.Free ∧
      (∀ s ∈ brittle.output.shared :: Output.sharedPut brittleRequests, s.reenters = false) ∧
      ∃ returns g', brittle.performAll 2 brittleRequests = some (returns, g') ∧ g'.Free ∧
        g'.output.events = #[.wrote "own" [97], .wrote "all" [120], .flushed "own",
          .wrote "all" [98]] ∧
        g'.output.journal = #[.consolePanicked .message, .consolePanicked .message] ∧
        Output.sharedGiven returns = [.recorder "all" .panics] := by
  have hfree : brittle.Free := ⟨rfl, rfl⟩
  have hcalm : ∀ s ∈ brittle.output.shared :: Output.sharedPut brittleRequests,
      s.reenters = false := by decide
  obtain ⟨returns, g', hrun, hrouted⟩ := performAll_routed 0 hfree hcalm
  have hreturns : (brittle.output.performAll brittleRequests).1 = returns :=
    congrArg Prod.fst hrouted.output
  have houtput : (brittle.output.performAll brittleRequests).2 = g'.output :=
    congrArg Prod.snd hrouted.output
  refine ⟨hfree, hcalm, returns, g', hrun, hrouted.free, ?_, ?_, ?_⟩
  · rw [← houtput]
    rfl
  · rw [← houtput]
    rfl
  · rw [← hreturns]
    rfl

end Guarded
end GuestRuntime
