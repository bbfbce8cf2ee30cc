import GuestRuntime.Proofs.Dialogue.Rooting

/-!
Ordinary calls: they are not of a guest's life, and do not ask for the depth of its root stack. An
evaluation makes no others between its two looks at the depth, whatever it is answered; and if it
fails, the fault is the code's, which cannot be parsed or fails as it is evaluated.

        depth   ( ordinary calls )   depth
                └ evaluation ────┘ a value, or a fault of the code

Main statement: `ordinary_evaluation`.
-/

namespace GuestRuntime

/-- A call for the depth of the root stack. -/
def Entry.asksDepth : Entry → Bool
  | .depth => true
  | _ => false

def Entry.isOrdinary (e : Entry) : Bool := e.purpose != .life && !e.asksDepth

theorem Entry.purpose_ne_life {e : Entry} (he : e.isOrdinary = true) : e.purpose ≠ .life :=
  bne_iff_ne.mp (Bool.and_eq_true_iff.mp he).1

theorem Entry.asksDepth_eq_false {e : Entry} (he : e.isOrdinary = true) : e.asksDepth = false := by
  simpa using (Bool.and_eq_true_iff.mp he).2

/-- A fault that the evaluated code is to blame for. -/
def Fault.isOfCode : Fault → Bool
  | .parse _ | .runtime _ _ => true
  | _ => false

/-- If this is a fault, the code is to blame for it. -/
def BlamesCode {α : Type} (r : Except Fault α) : Prop := ∀ f, r = .error f → f.isOfCode = true

theorem blamesCode_ok {α : Type} (a : α) : BlamesCode (.ok a) := nofun

theorem blamesCode_parse {α : Type} (code : String) :
    BlamesCode (.error (.parse code) : Except Fault α) := by
  rintro f ⟨⟩
  rfl

theorem blamesCode_runtime {α : Type} (message code : String) :
    BlamesCode (.error (.runtime message code) : Except Fault α) := by
  rintro f ⟨⟩
  rfl

namespace Dialogue

variable {α β : Type} {P : α → Prop} {Q : β → Prop} {d : Dialogue α}

/-- The rule of ordinary calls; a guest may give any answer. -/
def ordinary : Rule where
  permits _ e := e.isOrdinary = true
  admits _ := True

/-- The dialogue makes ordinary calls only, and `P` is true of what it ends with. -/
def Ordinary (d : Dialogue α) (P : α → Prop) : Prop := ∀ past, d.Abides ordinary past fun a _ => P a

/-- The dialogue makes ordinary calls only. -/
abbrev IsOrdinary (d : Dialogue α) : Prop := Ordinary d fun _ => True

theorem ordinary_done {a : α} (ha : P a) : Ordinary (done a) P := fun _ => ha

theorem isOrdinary_done {a : α} : IsOrdinary (done a) := ordinary_done trivial

theorem ordinary_ask {e : Entry} {held : List Nat} {k : e.Answer → Dialogue α}
    (he : e.isOrdinary = true) (hk : ∀ x, Ordinary (k x) P) : Ordinary (ask e held k) P :=
  fun _ => ⟨he, fun x _ => hk x _⟩

theorem ordinary_note {n : Note} (hd : Ordinary d P) : Ordinary (note n d) P := hd

theorem ordinary_bind {f : α → Dialogue β} (hd : Ordinary d P) (hf : ∀ a, P a → Ordinary (f a) Q) :
    Ordinary (d.bind f) Q := fun past =>
  abides_bind.mpr ((hd past).mono fun a past' ha => hf a ha past')

theorem isOrdinary_bind {f : α → Dialogue β} (hd : IsOrdinary d) (hf : ∀ a, Ordinary (f a) Q) :
    Ordinary (d.bind f) Q :=
  ordinary_bind hd fun a _ => hf a

/-! ### Marshaling -/

theorem isOrdinary_charsText (x : Obj) : IsOrdinary (charsText x) := by
  refine ordinary_ask rfl fun b => ?_
  cases b with
  | none => exact isOrdinary_done
  | some b => exact isOrdinary_done

theorem isOrdinary_realText (x : Double) : IsOrdinary (realText x) := by
  unfold realText
  split
  · refine ordinary_ask rfl fun b => ?_
    cases b <;> exact isOrdinary_done
  · split <;> exact isOrdinary_done

/-- A vector that is shown as text if it has one element only. -/
theorem isOrdinary_single {x : Obj} {d : Dialogue HostValue} (hd : IsOrdinary d) :
    IsOrdinary ((single x).bind fun one => if one = true then d else done (.object x)) := by
  refine isOrdinary_bind (ordinary_ask rfl fun _ => isOrdinary_done) fun one => ?_
  split
  · exact hd
  · exact isOrdinary_done

theorem isOrdinary_marshal (x : Obj) : IsOrdinary (marshal x) := by
  simp only [marshal, call, bind_eq, bind, pure_eq]
  refine ordinary_ask rfl fun kind => ?_
  split
  · exact isOrdinary_bind (isOrdinary_charsText x) fun _ => isOrdinary_done
  split
  · refine ordinary_ask rfl fun n => ?_
    split
    · refine ordinary_ask rfl fun y => ?_
      exact isOrdinary_bind (isOrdinary_charsText y) fun _ => isOrdinary_done
    · exact isOrdinary_done
  split
  · refine ordinary_ask rfl fun n => ?_
    split
    · exact isOrdinary_done
    · exact ordinary_ask rfl fun _ => isOrdinary_done
  split
  · refine isOrdinary_single (ordinary_ask rfl fun l => ?_)
    exact isOrdinary_bind (isOrdinary_realText _) fun _ => isOrdinary_done
  split
  · exact isOrdinary_single (ordinary_ask rfl fun _ => isOrdinary_done)
  split
  · exact isOrdinary_single (ordinary_ask rfl fun _ => isOrdinary_done)
  · exact isOrdinary_done

end Dialogue

namespace Frame

open Dialogue

variable {α β : Type} {f : Frame α}

/-- The activity makes ordinary calls only, and what it fails with is the code's fault. -/
def Ordinary (f : Frame α) : Prop := ∀ n, Dialogue.Ordinary (f.run.run n) fun p => BlamesCode p.1

theorem ordinary_pure {a : α} : Ordinary (pure a) := fun _ => ordinary_done (blamesCode_ok a)

theorem ordinary_inner {d : Dialogue α} (hd : IsOrdinary d) : Ordinary (inner d) := fun n => by
  rw [run_inner]
  refine isOrdinary_bind (fun past => abides_within.mpr (hd past)) fun a => ?_
  exact ordinary_done (blamesCode_ok a)

theorem Ordinary.bind {k : α → Frame β} (hf : Ordinary f) (hk : ∀ a, Ordinary (k a)) :
    Ordinary (f >>= k) := by
  refine fun n => ordinary_bind (hf n) ?_
  rintro ⟨r, m⟩ hr
  cases r with
  | ok a => exact hk a m
  | error e =>
    refine ordinary_done fun f hf => ?_
    cases hf
    exact hr e rfl

theorem Ordinary.call_bind {e : Entry} {k : e.Answer → Frame α} (he : e.isOrdinary = true)
    (hk : ∀ x, Ordinary (k x)) : Ordinary (call e >>= k) :=
  fun n => ordinary_ask he fun x => hk x n

theorem Ordinary.root_bind {x : Obj} {k : Obj → Frame α} (hk : ∀ y, Ordinary (k y)) :
    Ordinary (root x >>= k) := fun n => ordinary_ask rfl fun y => hk y (n + 1)

theorem Ordinary.remark_bind {m : Note} {k : Unit → Frame α} (hk : Ordinary (k ())) :
    Ordinary (remark m >>= k) := hk

theorem Ordinary.fail_bind {e : Fault} {k : β → Frame α}
    (he : BlamesCode (.error e : Except Fault α)) : Ordinary (fail e >>= k) :=
  fun _ => ordinary_done he

theorem ordinary_close (hf : Ordinary f) : Dialogue.Ordinary f.close BlamesCode := by
  refine ordinary_bind (hf 0) ?_
  rintro ⟨r, n⟩ hr
  by_cases hn : 0 < n
  · simp only [hn, if_true]
    exact ordinary_ask rfl fun _ => ordinary_done hr
  · simp only [hn, if_false]
    exact ordinary_done hr

end Frame

namespace Dialogue

open GuestRuntime.Frame

variable {explain : Dialogue String} {code : String} {env : Option Obj}

/-! ### Evaluations -/

theorem ordinary_sourceExpressions (code : String) (text : Bytes) :
    Frame.Ordinary (sourceExpressions code text) := by
  refine .call_bind rfl fun _ => .root_bind fun source => .call_bind rfl fun _ => ?_
  refine .call_bind rfl fun (status, exprs) => .root_bind fun exprs => ?_
  by_cases hstatus : status = parsedOk
  · rw [if_neg (not_not_intro hstatus)]
    refine .call_bind rfl fun n => ?_
    by_cases hnone : n = 0
    · rw [if_pos hnone]
      exact .fail_bind (blamesCode_parse code)
    rw [if_neg hnone]
    by_cases hmore : 1 < n
    · rw [if_pos hmore]
      exact .remark_bind ordinary_pure
    · rw [if_neg hmore]
      exact ordinary_pure
  · rw [if_pos hstatus]
    exact .fail_bind (blamesCode_parse code)

theorem ordinary_firstValue (hx : IsOrdinary explain) (exprs : Obj) :
    Frame.Ordinary (firstValue explain code env exprs) := by
  suffices ∀ env, Frame.Ordinary (firstValue explain code (some env) exprs) by
    cases env with
    | some env => exact this env
    | none => exact .call_bind rfl this
  intro env
  refine .call_bind rfl fun expr => .call_bind rfl fun (failed, result) => ?_
  refine .root_bind fun result => ?_
  split
  · exact (ordinary_inner hx).bind fun message => .fail_bind (blamesCode_runtime message code)
  · exact ordinary_inner (isOrdinary_marshal result)

/-- The calls of an evaluation are ordinary, and its faults are its code's. -/
theorem ordinary_evaluation (hx : IsOrdinary explain) (code : String) (env : Option Obj) :
    Ordinary (evaluation explain code env) BlamesCode := by
  unfold evaluation
  refine ordinary_note ?_
  cases Terminated.ofText code with
  | error i => exact ordinary_done (blamesCode_parse code)
  | ok text =>
    exact ordinary_close ((ordinary_sourceExpressions code text).bind (ordinary_firstValue hx))

theorem isOrdinary_diagnostic : IsOrdinary diagnostic := by
  unfold diagnostic
  refine ordinary_bind (ordinary_evaluation isOrdinary_done _ _) fun r _ => ?_
  cases r with
  | error f => exact ordinary_note isOrdinary_done
  | ok v =>
    cases v with
    | text t => exact isOrdinary_done
    | object x => exact ordinary_note isOrdinary_done
    | bytes b => exact ordinary_note isOrdinary_done

end Dialogue
end GuestRuntime
