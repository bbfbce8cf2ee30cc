import GuestRuntime.Mini.Bench
import GuestRuntime.Proofs.Mini.Operand
import GuestRuntime.Proofs.Mini.Operations
import GuestRuntime.Proofs.Mini.Refusal
import GuestRuntime.Proofs.Mini.Throughout
import GuestRuntime.Proofs.Unwinding.Calls

/-!
Whatever is asked of the guest, request by request, each panic being caught before the next request.
Statement by statement every request does what it does on the bench, so a request that panics leaves
no trace: nothing is changed, no guard is kept, and what is asked later is answered as if it had not
been asked.

        before ──▶ w ── panic ──▶ w ──▶ later
                   └────────────────▶ later

One panic arises in the middle of a request: an evaluation that asks for more memory than there can
be. What it has printed by then stays printed. Main statements: `ask_run`, `askAll_run` and
`panic_traceless`.
-/

namespace GuestRuntime.Unwinding

open Checked Mini TheGuest
open Bench (single)

/-- All that can be asked of the guest: its entry points, and what a bench has beside them. -/
inductive Request
  | entry (e : Entry)
  | alloc (v : Value)
  | value (x : Obj)
  | leak
  | messages (mode : MessageMode)
  | probe

def Request.command : Request → Command
  | entry e => .call e
  | alloc v => .alloc v
  | value x => .value x
  | leak => .leak
  | messages mode => .messages mode
  | probe => .probe

/-- A request, statement by statement. -/
def ask : Request → Prog Answered
  | .entry e => do return .call ⟨e, ← call e⟩
  | .alloc v => do return .object (← alloc v)
  | .value x => do return .value (← inspect x fun v => return v)
  | .leak => do
    update fun m => { m with leaky := true }
    return .done
  | .messages mode => do
    update fun m => { m with mode }
    return .done
  | .probe => do return .probed (← looking peek)

/-- Requests in order; a panic ends only the request in which it arises. -/
def askAll : List Request → World Cell → List (Except Trap Answered) × World Cell
  | [], v => ([], v)
  | r :: rs, v =>
    let (a, v) := (ask r).run v
    let (as, v) := askAll rs v
    (a :: as, v)

/-- The same requests on the bench, each at once. -/
def singles : List Request → Bench.State → List Answered × Bench.State
  | [], s => ([], s)
  | r :: rs, s =>
    let (a, s) := single r.command s
    let (as, s) := singles rs s
    (a :: as, s)

/-- What an answer on the bench says. -/
def told : Answered → Except Trap Answered
  | .panicked p => .error (.panic p)
  | a => .ok a

/-- Why a request panics. -/
inductive Rejects (m : Machine) : Request → Panic → Prop
  | entry {e : Entry} {p : Panic} (h : Refuses m e p) : Rejects m (.entry e) p
  | value {x : Obj} (h : m.object? x = none) : Rejects m (.value x) (.dangling x)

/-- What a request that panics leaves: all as it was, or, if it is an evaluation that asks for too
much, what that has done by then. -/
inductive Panicked (w : World Machine) : Request → Panic → World Machine → Prop
  | refused {r : Request} {p : Panic} (h : Rejects w.memory r p) : Panicked w r p w
  | evaluation {e : Entry} {p : Panic} {s : Scratch} (h : Overreaches w.memory e p s) :
      Panicked w (.entry e) p (afterValue w s)

/-- All expressions that there are have been read. -/
def IsRead (m : Machine) : Prop := ∀ x e, m.object? x = some (.lang e) → e.IsShaped

/-- A request that makes no expression but such as can be read; all entry points are. -/
def Request.IsFormed : Request → Prop
  | alloc v => v.IsFormed
  | _ => True

variable {m : Machine} {h : Host} {s t : Bench.State} {r : Request} {p : Panic}
  {w w' : World Machine}

/-! ### One request -/

theorem told_eq_error {a : Answered} {t : Trap} (h : told a = .error t) :
    ∃ p, a = .panicked p ∧ t = .panic p := by
  cases a with
  | panicked p => exact ⟨p, rfl, (Except.error.inj h).symm⟩
  | _ => cases h

/-- A request does statement by statement what it does at once. -/
theorem ask_run (r : Request) (s : Bench.State) : (ask r).run (free s.world) =
    (told (single r.command s).1, free (single r.command s).2.world) := by
  obtain ⟨scope, m, h⟩ := s
  cases r with
  | entry e =>
    have hcall : (call e).run (free ⟨m, h⟩) = unwound (World.call it e ⟨m, h⟩) := call_run e _
    rw [ask, prog_bind, hcall, Request.command, single]
    rcases World.call it e ⟨m, h⟩ with ⟨p | a, w⟩ <;> rfl
  | alloc v => exact prog_bind_ok (alloc_run v)
  | value x =>
    dsimp only [single, Request.command]
    cases ho : m.object? x with
    | none => exact prog_bind_error (inspect_none ho)
    | some v => exact prog_bind_ok (inspect_some ho rfl)
  | leak | messages mode => exact prog_bind_ok (update_run _)
  | probe => exact prog_bind_ok (looking_run rfl)

/-- A request that panics on the bench does so for one of the reasons. -/
theorem panicked_of_single (hp : (single r.command s).1 = .panicked p) :
    ∃ w', Panicked s.world r p w' := by
  obtain ⟨scope, m, h⟩ := s
  cases r with
  | entry e =>
    simp only [single, Request.command, call_within, within] at hp
    have houtcome : (Machine.call e m).outcome = .error p := by
      generalize (Machine.call e m).outcome = o at hp ⊢
      cases o with
      | ok a => cases hp
      | error q =>
        cases hp
        rfl
    rcases panics_of_outcome houtcome with hrefuses | ⟨s, hover⟩
    · exact ⟨_, .refused (.entry hrefuses)⟩
    · exact ⟨_, .evaluation hover⟩
  | value x =>
    dsimp only [single, Request.command] at hp
    split at hp
    · cases hp
    · next ho =>
      cases hp
      exact ⟨_, .refused (.value ho)⟩
  | _ => cases hp

/-- A request that is refused panics, and does nothing else. -/
theorem Rejects.single_eq (h : Rejects s.world.memory r p) :
    single r.command s = (.panicked p, s) := by
  obtain ⟨scope, m, h⟩ := s
  cases h with
  | entry h =>
    rw [Request.command, single, call_within, h.call_eq]
    rfl
  | value h =>
    dsimp only [single, Request.command]
    rw [h]

theorem Panicked.single_eq (h : Panicked s.world r p w') :
    single r.command s = (.panicked p, { s with world := w' }) := by
  cases h with
  | refused h => exact h.single_eq
  | evaluation h =>
    obtain ⟨scope, m, host⟩ := s
    rw [Request.command, single, call_within, h.call_eq]
    rfl

/-- The evaluation of an expression that was read binds nothing before it panics. -/
theorem Panicked.memory_eq (h : Panicked w r p w') (hread : IsRead w.memory) :
    w'.memory = w.memory := by
  cases h with
  | refused h => rfl
  | @evaluation _ _ s h =>
    cases h with
    | evaluation ho he hp =>
      have hglobals : s.globals = w.memory.globals := by
        have hleaves := (outcomeIn_isShaped (hread _ _ ho) he).1
        generalize s.globals = g at hleaves
        cases hleaves
        rfl
      show w.memory.leave s.globals w.memory.lastError = w.memory
      rw [hglobals]
      rfl

/-- What is answered depends on nothing but the machine, and so does what becomes of it. -/
theorem single_congr (r : Request) (h : s.world.memory = t.world.memory) :
    (single r.command s).1 = (single r.command t).1 ∧
      (single r.command s).2.world.memory = (single r.command t).2.world.memory := by
  obtain ⟨scope, m, h⟩ := s
  obtain ⟨scope', m', h'⟩ := t
  obtain rfl : m = m' := h
  cases r with
  | entry e =>
    simp only [single, Request.command, call_within, within]
    cases (Machine.call e m).outcome <;> exact ⟨rfl, rfl⟩
  | value x =>
    dsimp only [single, Request.command]
    split <;> exact ⟨rfl, rfl⟩
  | alloc v | leak | messages mode | probe => exact ⟨rfl, rfl⟩

theorem single_isRegular (h : s.world.memory.IsRegular) (hr : r.IsFormed) :
    (single r.command s).2.world.memory.IsRegular := by
  obtain ⟨scope, m, host⟩ := s
  cases r with
  | entry e =>
    have hcall : (Machine.call e m).memory.IsRegular := invariant_isRegular e m h
    simp only [single, Request.command, call_within, within]
    cases (Machine.call e m).outcome <;> exact hcall
  | alloc v => exact Machine.IsRegular.push h hr
  | value x =>
    dsimp only [single, Request.command]
    split <;> exact h
  | leak | messages mode => exact Machine.IsRegular.congr h rfl rfl rfl
  | probe => exact h

/-! ### All requests -/

theorem askAll_run (rs : List Request) (s : Bench.State) : askAll rs (free s.world) =
    ((singles rs s).1.map told, free (singles rs s).2.world) := by
  induction rs generalizing s with
  | nil => rfl
  | cons r rs ih =>
    simp only [askAll, singles, ask_run, ih]
    rfl

theorem singles_congr (rs : List Request) (h : s.world.memory = t.world.memory) :
    (singles rs s).1 = (singles rs t).1 := by
  induction rs generalizing s t with
  | nil => rfl
  | cons r rs ih =>
    obtain ⟨hanswer, hmemory⟩ := single_congr r h
    simp only [singles, hanswer, ih hmemory]

/-- Expressions come from reading only, unless a bench makes some. -/
theorem singles_isRead (h : s.world.memory.IsRegular) {rs : List Request}
    (hrs : ∀ r ∈ rs, r.IsFormed) : IsRead (singles rs s).2.world.memory := by
  induction rs generalizing s with
  | nil => exact fun x e he => h.object he
  | cons r rs ih =>
    obtain ⟨hr, hrs⟩ := List.forall_mem_cons.mp hrs
    exact ih (single_isRegular h hr) hrs

theorem askAll_append (rs rs' : List Request) (v : World Cell) : askAll (rs ++ rs') v =
    ((askAll rs v).1 ++ (askAll rs' (askAll rs v).2).1, (askAll rs' (askAll rs v).2).2) := by
  induction rs generalizing v with
  | nil => rfl
  | cons r rs ih =>
    rw [List.cons_append, askAll, askAll]
    simp only [ih]
    rfl

/-- A request that panics leaves no trace. Whatever the world is at first and whatever was asked
before, the panic has one of the known reasons, everything is as it was and nobody has the machine,
and whatever is asked later is answered, and ends, as if the request had not been made. Only an
evaluation that asks for too much leaves what it has done by then; if all expressions were read,
which they are wherever entry points have led from a new machine, that is nothing in the machine,
and what is asked later is answered all the same. -/
theorem panic_traceless (w : World Machine) (before later : List Request) (r : Request) {t : Trap}
    (ht : ((ask r).run (askAll before (free w)).2).1 = .error t) :
    ∃ p w' w'', t = .panic p ∧ Panicked w' r p w'' ∧
      (singles before ⟨none, w⟩).2.world = w' ∧ (askAll before (free w)).2 = free w' ∧
      single r.command ⟨none, w'⟩ = (.panicked p, ⟨none, w''⟩) ∧
      (ask r).run (free w') = (.error t, free w'') ∧
      askAll (before ++ r :: later) (free w) =
        ((askAll before (free w)).1 ++ .error t :: (askAll later (free w'')).1,
          (askAll later (free w'')).2) ∧
      askAll (before ++ later) (free w) =
        ((askAll before (free w)).1 ++ (askAll later (free w')).1, (askAll later (free w')).2) ∧
      (IsRead w'.memory → w''.memory = w'.memory ∧
        (askAll later (free w'')).1 = (askAll later (free w')).1) ∧
      (w.memory.IsRegular → (∀ r ∈ before, r.IsFormed) → IsRead w'.memory) := by
  have hbefore := askAll_run before ⟨none, w⟩
  have hreads : w.memory.IsRegular → (∀ r ∈ before, r.IsFormed) →
      IsRead (singles before ⟨none, w⟩).2.world.memory := fun h hrs => singles_isRead h hrs
  generalize (singles before ⟨none, w⟩).2 = s at hbefore hreads
  rw [hbefore, ask_run] at ht
  obtain ⟨p, hp, rfl⟩ := told_eq_error ht
  obtain ⟨w'', hpanicked⟩ := panicked_of_single hp
  have hask : (ask r).run (free s.world) = (.error (.panic p), free w'') := by
    rw [ask_run, hpanicked.single_eq]
    rfl
  refine ⟨p, s.world, w'', rfl, hpanicked, rfl, by rw [hbefore], ?_, hask, ?_, ?_,
    fun hread => ?_, hreads⟩
  · exact Panicked.single_eq (s := ⟨none, s.world⟩) hpanicked
  · rw [askAll_append, hbefore, askAll, hask]
  · rw [askAll_append, hbefore]
  · have hmemory := hpanicked.memory_eq hread
    have hlater := singles_congr (s := ⟨none, w''⟩) (t := ⟨none, s.world⟩) later hmemory
    refine ⟨hmemory, ?_⟩
    have hasked (u : World Machine) := askAll_run later ⟨none, u⟩
    rw [hasked w'', hasked s.world, hlater]

/-- An object is made and rooted. -/
def rooted : List Request := [.entry (.allocStrings 1), .entry (.protect ⟨3⟩)]

/-- Two are released where one is rooted, and what is rooted stays so. -/
theorem panic_traceless_release :
    ((ask (.entry (.unprotect 2))).run (askAll rooted (free ⟨{}, bareHost⟩)).2).1 =
        .error (.panic (.tooManyUnprotected 1)) ∧
      ∃ as a v, askAll (rooted ++ [.entry (.unprotect 2), .entry .depth]) (free ⟨{}, bareHost⟩) =
          (as ++ [.error (.panic (.tooManyUnprotected 1)), a], v) ∧
        askAll (rooted ++ [.entry .depth]) (free ⟨{}, bareHost⟩) = (as ++ [a], v) := by
  have hpanics : ((ask (.entry (.unprotect 2))).run (askAll rooted (free ⟨{}, bareHost⟩)).2).1 =
      .error (.panic (.tooManyUnprotected 1)) := rfl
  obtain ⟨p, w', w'', -, hpanicked, -, -, -, -, hwith, hwithout, -, -⟩ :=
    panic_traceless ⟨{}, bareHost⟩ rooted [.entry .depth] (.entry (.unprotect 2)) hpanics
  obtain rfl : w'' = w' := by
    cases hpanicked with
    | refused h => rfl
    | evaluation h => cases h
  exact ⟨hpanics, _, _, _, hwith, hwithout⟩

end GuestRuntime.Unwinding
