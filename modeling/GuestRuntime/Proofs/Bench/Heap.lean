import GuestRuntime.Proofs.Bench.Commands
import GuestRuntime.Proofs.Mini.Kept

/-!
The heap on the bench. At every moment of every run, inside scopes and outside, the first two slots
are the environment and the null object, a command makes at most one object, in the next slot, and
changes what is there only by a string that it sets:

        1 env │ 2 null │ 3 … n │ n + 1
        └────── kept ──────────┘ └─ made

Main statement: `heap_appended`.
-/

namespace GuestRuntime.Mini.Bench

open Dialogue TheGuest Machine

mutual

/-- What a command writes, with all commands of a scope. -/
def writesOf : Command → List Write
  | .call e => writes e
  | .scope cs _ => writesOfAll cs
  | _ => []

/-- What commands write, in order. -/
def writesOfAll : List Command → List Write
  | [] => []
  | c :: r => writesOf c ++ writesOfAll r

end

/-- The states between commands, in scopes and outside, of everything that can be done with a guest
of its own. -/
inductive Moment (host : Host) : State → Prop
  | first : Moment host ⟨none, ⟨{}, host⟩⟩
  | next {s} (c : Command) (h : Moment host s) : Moment host (run c s).2
  | inside {s} (h : Moment host s) (wraps : Bool) : Moment host (opened s wraps)

/-- The object that an answer holds, unless it is one that was to be rooted. -/
def handed? : Command → Answered → Option Obj
  | .alloc _, .object x => some x
  | .call _, .call x => returned? x.entry x.answer
  | .tryEval _ _ _, .evaluated _ x _ => some x
  | .marshal _, .marshaled (.object x) => some x
  | _, _ => none

/-- The environment and the null object are where they always are. -/
structure Founded (m : Machine) : Prop where
  env : m.object? globalEnv = some .env
  nil : m.object? Machine.nil = some .nil

/-- A command that is no scope makes one object or none: an answer holds that one, if it was not
made for marshaling, or one that was there. -/
inductive Makes (c : Command) (m m' : Machine) (handed : Option Obj) : Prop
  | none (hsize : m'.heap.size = m.heap.size)
      (hthere : ∀ x, handed = some x → ∃ v, m.object? x = some v)
  | one (hsize : m'.heap.size = m.heap.size + 1)
      (hnext : handed = some m.next ∨ handed = none ∧ ∃ x, c = .marshal x)

/-- What a command does to the heap. -/
structure Extends (c : Command) (s : State) : Prop where
  kept : Keeps (writesOf c) s.world.memory (run c s).2.world.memory
  made : (∀ cs wraps, c ≠ .scope cs wraps) → Makes c s.world.memory (run c s).2.world.memory
    (handed? c (answerOf (run c s).1))
  there : ∀ x, handed? c (answerOf (run c s).1) = some x →
    ∃ v, (run c s).2.world.memory.object? x = some v
  /-- A scope makes what its commands make. -/
  closed : ∀ cs wraps, c = .scope cs wraps →
    (run c s).2.world.memory.heap = (runAll cs (opened s wraps)).2.world.memory.heap

variable {s t : State} {c : Command} {m m' : Machine} {ws : List Write} {host : Host}

/-! ### Single commands -/

/-- The first two objects are never written. -/
theorem Founded.of_keeps (h : Founded m) (hk : Keeps ws m m') : Founded m' where
  env := (hk _ _ h.env).trans (congrArg some (foldl_on_of_ne (v := .env) nofun ws))
  nil := (hk _ _ h.nil).trans (congrArg some (foldl_on_of_ne (v := .nil) nofun ws))

theorem makes_nothing (hsize : m'.heap.size = m.heap.size) : Makes c m m' none :=
  .none hsize (by rintro _ ⟨⟩)

theorem makes_of_appends {r : Option Obj} (h : Appends ws m m' r) (hm : Founded m) :
    Makes c m m' r := by
  rcases h.made with ⟨hsize, hr⟩ | ⟨hsize, hr⟩
  · refine .none hsize fun x hx => ?_
    rcases hr x hx with rfl | rfl
    · exact ⟨_, hm.env⟩
    · exact ⟨_, hm.nil⟩
  · exact .one hsize (.inl hr)

theorem single_keeps (s : State) (hc : ∀ cs wraps, c ≠ .scope cs wraps) :
    Keeps (writesOf c) s.world.memory (single c s).2.world.memory := by
  cases c with
  | alloc v => exact keeps_of_push rfl
  | value x =>
    simp only [single]
    split <;> exact keeps_of_heap rfl
  | call e =>
    have hkept := (call_appends e s.world.memory).content
    rw [single, memory_orPanic fun _ _ => rfl]
    exact hkept
  | protect x =>
    have hkept := (call_appends (.protect x) s.world.memory).content
    rw [single, memory_orPanic fun y s => congrArg World.memory (world_counting y s)]
    exact hkept
  | tryEval x env flag =>
    have hkept := (call_appends (.tryEval x env flag) s.world.memory).content
    rw [single, memory_orPanic fun _ _ => rfl]
    exact hkept
  | marshal x =>
    rw [single, memory_orPanic fun _ _ => rfl]
    exact (careful_marshal x).keeps s.world
  | leak | messages mode | probe => exact keeps_of_heap rfl
  | scope cs wraps => exact absurd rfl (hc cs wraps)

/-- Marshaling answers with an object only as it is. -/
theorem marshal_makes (x : Obj) (s : State) :
    Makes (.marshal x) s.world.memory (single (.marshal x) s).2.world.memory
      (handed? (.marshal x) (single (.marshal x) s).1) := by
  rcases run_marshal x s.world with hrun | ⟨v, ho, hrun⟩
  · rw [single, hrun]
    exact makes_nothing rfl
  · rw [single, hrun]
    simp only [orPanic]
    rcases marshaling_cases s.world.memory x v with hm | ⟨b, t, hm, hv⟩
    · refine .none (congrArg (fun m => m.heap.size) hm) fun y hy => ?_
      have hobject : v.marshaled x = .object y := by
        generalize v.marshaled x = a at hy
        cases a with
        | object z => exact congrArg _ (Option.some.inj hy)
        | text | bytes => cases hy
      rw [marshaled_object hobject]
      exact ⟨v, ho⟩
    · rw [hm, hv]
      exact .one (Array.size_push _) (.inr ⟨rfl, x, rfl⟩)

/-- A command that is one call makes what the call answers with. -/
theorem makes_of_call (e : Entry) {f : e.Answer → State → Answered × State}
    (hf : ∀ a s, handed? c (f a s).1 = returned? e a ∧ (f a s).2.world.memory = s.world.memory)
    (hm : Founded s.world.memory) :
    Makes c s.world.memory (orPanic (s.world.call it e) s f).2.world.memory
      (handed? c (orPanic (s.world.call it e) s f).1) := by
  have happends := call_appends e s.world.memory
  have hhanded : handed? c (orPanic (s.world.call it e) s f).1 =
      returnedBy e (Machine.call e s.world.memory).outcome := by
    have hcall : (s.world.call it e).1 = (Machine.call e s.world.memory).outcome := rfl
    rw [← hcall]
    rcases s.world.call it e with ⟨p | a, w⟩
    · cases c <;> rfl
    · exact (hf a _).1
  rw [hhanded, memory_orPanic fun a s => (hf a s).2]
  exact makes_of_appends happends hm

theorem single_makes (s : State) (hc : ∀ cs wraps, c ≠ .scope cs wraps)
    (hm : Founded s.world.memory) :
    Makes c s.world.memory (single c s).2.world.memory (handed? c (single c s).1) := by
  cases c with
  | alloc v => exact .one (Array.size_push _) (.inl rfl)
  | value x =>
    simp only [single]
    split <;> exact makes_nothing rfl
  | call e => exact makes_of_call e (fun _ _ => ⟨rfl, rfl⟩) hm
  | protect x =>
    refine makes_of_call (.protect x) (fun y s => ?_) hm
    refine ⟨?_, congrArg World.memory (world_counting y s)⟩
    unfold counting
    split
    · rfl
    · split <;> rfl
  | tryEval x env flag => exact makes_of_call (.tryEval x env flag) (fun _ _ => ⟨rfl, rfl⟩) hm
  | marshal x => exact marshal_makes x s
  | leak | messages mode | probe => exact makes_nothing rfl
  | scope cs wraps => exact absurd rfl (hc cs wraps)

/-! ### Commands and scopes -/

theorem run_single_keeps (s : State) (hc : ∀ cs wraps, c ≠ .scope cs wraps) :
    Keeps (writesOf c) s.world.memory (run c s).2.world.memory := by
  rw [run_single s hc]
  exact single_keeps (withOutput s s.world.host.output.openCapture.2) hc

theorem heap_closeScope (steps : List Shown) (count : Int) (s : State) :
    (closeScope steps count s).2.world.memory.heap = s.world.memory.heap := by
  unfold closeScope
  split
  · rw [memory_orPanic fun _ _ => rfl, memory_call, Machine.call]
    dsimp only
    split <;> rfl
  · rfl

theorem heap_run_scope (cs : List Command) (wraps : Bool) (s : State) :
    (run (.scope cs wraps) s).2.world.memory.heap =
      (runAll cs (opened s wraps)).2.world.memory.heap := by
  rw [run_scope]
  exact heap_closeScope _ _ _

mutual

/-- What is there stays through a command, with what the command writes. -/
theorem run_keeps : (c : Command) → (s : State) →
    Keeps (writesOf c) s.world.memory (run c s).2.world.memory
  | .scope cs wraps, s => by
    have hinside := runAll_keeps cs (opened s wraps)
    have hkept := hinside.trans (keeps_of_heap (heap_run_scope cs wraps s))
    rw [List.append_nil] at hkept
    rw [writesOf]
    exact hkept
  | .alloc _, s | .value _, s | .call _, s | .protect _, s | .tryEval _ _ _, s | .marshal _, s
  | .leak, s | .messages _, s | .probe, s => run_single_keeps s nofun

theorem runAll_keeps : (cs : List Command) → (s : State) →
    Keeps (writesOfAll cs) s.world.memory (runAll cs s).2.world.memory
  | [], s => by
    rw [runAll, writesOfAll]
    exact keeps_of_heap rfl
  | c :: cs, s => by
    rw [runAll, writesOfAll]
    exact (run_keeps c s).trans (runAll_keeps cs (run c s).2)

end

theorem run_extends (c : Command) (hm : Founded s.world.memory) : Extends c s := by
  have hkept := run_keeps c s
  have hmade : (∀ cs wraps, c ≠ .scope cs wraps) → Makes c s.world.memory (run c s).2.world.memory
      (handed? c (answerOf (run c s).1)) := by
    intro hc
    rw [run_single s hc]
    exact single_makes (withOutput s s.world.host.output.openCapture.2) hc hm
  refine ⟨hkept, hmade, fun x hx => ?_, fun cs wraps hc => hc ▸ heap_run_scope cs wraps s⟩
  have hc : ∀ cs wraps, c ≠ .scope cs wraps := by
    rintro cs wraps rfl
    generalize answerOf (run (.scope cs wraps) s).1 = a at hx
    cases a <;> cases hx
  cases hmade hc with
  | none hsize hthere =>
    obtain ⟨v, hv⟩ := hthere x hx
    exact ⟨_, hkept x v hv⟩
  | one hsize hnext =>
    rcases hnext with hnext | ⟨hnone, -⟩
    · obtain rfl : s.world.memory.next = x := Option.some.inj (hnext.symm.trans hx)
      exact exists_object? (Nat.succ_ne_zero _) (Nat.le_of_eq hsize.symm)
    · rw [hnone] at hx
      cases hx

/-! ### Moments -/

theorem Moment.founded (h : Moment host s) : Founded s.world.memory := by
  induction h with
  | first => exact ⟨rfl, rfl⟩
  | next c _ ih => exact ih.of_keeps (run_keeps c _)
  | inside _ _ ih => exact ih

theorem Moment.runAll (h : Moment host s) (cs : List Command) :
    Moment host (Bench.runAll cs s).2 := by
  induction cs generalizing s with
  | nil =>
    rw [Bench.runAll]
    exact h
  | cons c cs ih =>
    rw [Bench.runAll]
    exact ih (.next c h)

/-- At every moment of what is done with a guest of its own, the first two objects are the
environment and the null object; every further command, of whatever kind and however it ends, makes
at most the next object, answers with one that is there, and changes none that was there except for
the strings that it sets; so do any commands in order, which lead to another such moment. An object
that the evaluation of a session answers with reads the same ever after. -/
theorem heap_appended (h : Moment host s) :
    Founded s.world.memory ∧ (∀ c, Extends c s) ∧
    (∀ cs, Moment host (Bench.runAll cs s).2 ∧
      Keeps (writesOfAll cs) s.world.memory (Bench.runAll cs s).2.world.memory) ∧
    ∀ (u t : MiniSession) code env x, u.evaluate code env = (.ok (.ok (.object x)), t) →
      ∃ v, t.world.memory.object? x = some v ∧
        ∀ ops, (Mini.run t ops).session.world.memory.object? x = some v :=
  ⟨h.founded, fun _ => run_extends _ h.founded, fun cs => ⟨h.runAll cs, runAll_keeps cs s⟩,
    fun _ _ _ _ _ => evaluate_kept⟩

/-- A string that is set in a scope, and one that is not there. -/
theorem heap_appended_set : ∃ s, Moment bareHost s ∧
    (Bench.runAll [.scope [.call (.setString ⟨3⟩ 1 [97]), .call (.setString ⟨3⟩ 2 [98])]]
      s).2.world.memory.object? ⟨3⟩ = some (.strings [[], [97]]) := by
  have hfirst : Moment bareHost (run (.call (.allocStrings 2)) ⟨none, ⟨{}, bareHost⟩⟩).2 :=
    .next _ .first
  obtain ⟨-, -, hruns, -⟩ := heap_appended hfirst
  have hthere : (run (.call (.allocStrings 2)) ⟨none, ⟨{}, bareHost⟩⟩).2.world.memory.object? ⟨3⟩ =
      some (.strings [[], []]) := rfl
  exact ⟨_, hfirst, (hruns _).2 _ _ hthere⟩

end GuestRuntime.Mini.Bench
