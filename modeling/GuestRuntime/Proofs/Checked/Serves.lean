import GuestRuntime.Proofs.Checked.Serving
import GuestRuntime.Proofs.Dialogue.Met

/-!
A host with checks beside one without. `Serves x d w Q`: if there is memory for all that the
dialogue `d` makes from `w` on, then `x` does what `d` does there, from the same world with a
machine that nobody has taken, and `Q` holds where it ends. Objects are never taken away, so who has
memory to the end has it at every call:

        d.bind f:   w ── d ──▶ w' ── f a ──▶ w''      w ≤ w' ≤ w'' ≤ capacity

Main statements: `Serves.bind`, `serves_ask` and, for activities that root, `Runs.bind`.
-/

namespace GuestRuntime.Checked

open Mini TheGuest

variable {α β : Type} {m : Machine} {h : Host} {w w' : World Machine} {e : Entry}
  {d : Dialogue α} {f : α → Dialogue β} {x : Act α} {y : α → Act β}

/-- A note in the journal. -/
def remark (n : Note) : Act Unit := fun w => .ok ((), { w with host := w.host.note n })

theorem steps_grow : Dialogue.Steps it fun w w' => w.memory.heap.size ≤ w'.memory.heap.size where
  refl _ := Nat.le_refl _
  trans := Nat.le_trans
  note _ _ := Nat.le_refl _
  call w e := call_grows e w.memory

/-- What a dialogue makes stays to its end. -/
theorem run_grows (d : Dialogue α) (w : World Machine) :
    w.memory.heap.size ≤ (d.run it w).2.memory.heap.size := steps_grow.run d w

theorem unwind_grows (held : List Nat) (w : World Machine) :
    w.memory.heap.size ≤ (Dialogue.unwind it held w).memory.heap.size := steps_grow.unwind held w

/-- With memory enough, `x` does what `d` says, and ends as `Q` says. -/
def Serves (x : Act α) (d : Dialogue α) (w : World Machine)
    (Q : α → World Machine → Prop) : Prop :=
  (d.run it w).2.memory.heap.size ≤ capacity →
    x (free w) = lifted (d.run it w) ∧ ∀ a w', d.run it w = (.ok a, w') → Q a w'

variable {P Q : α → World Machine → Prop} {R : β → World Machine → Prop}

theorem Serves.mono (hd : Serves x d w P) (hPQ : ∀ a w', P a w' → Q a w') : Serves x d w Q :=
  fun hm => ⟨(hd hm).1, fun a w' hr => hPQ a w' ((hd hm).2 a w' hr)⟩

theorem serves_done {a : α} (hQ : Q a w) : Serves (pure a) (.done a) w Q := by
  refine fun _ => ⟨rfl, ?_⟩
  rintro _ _ ⟨rfl, rfl⟩
  exact hQ

/-- One dialogue after another, and what does them one after another. -/
theorem Serves.bind (hd : Serves x d w P) (hf : ∀ a w', P a w' → Serves (y a) (f a) w' R) :
    Serves (x >>= y) (d.bind f) w R := by
  intro hm
  rw [Dialogue.run_bind] at hm ⊢
  rcases hr : d.run it w with ⟨p | a, w'⟩
  · simp only [hr] at hm ⊢
    have hx : x (free w) = .error (.panic p) := by
      rw [(hd (by rw [hr]; exact hm)).1, hr]
      rfl
    refine ⟨act_bind_error hx, ?_⟩
    rintro _ _ ⟨⟩
  · simp only [hr] at hm ⊢
    obtain ⟨hx, hP⟩ := hd (by rw [hr]; exact Nat.le_trans (run_grows (f a) w') hm)
    rw [hr] at hx
    rw [act_bind_eq hx]
    exact hf a w' (hP a w' hr) hm

/-- A panic inside a frame is one outside. -/
theorem Serves.within (hd : Serves x d w Q) (n : Nat) : Serves x (d.within n) w Q := by
  intro hm
  rw [Dialogue.run_within] at hm ⊢
  rcases hr : d.run it w with ⟨p | a, w'⟩
  · simp only [hr] at hm ⊢
    have hsize : (d.run it w).2.memory.heap.size ≤ capacity := by
      rw [hr]
      exact Nat.le_trans (unwind_grows (Dialogue.holding n) w') hm
    obtain ⟨hx, -⟩ := hd hsize
    rw [hr] at hx
    exact ⟨hx, fun _ _ h => by cases h⟩
  · simp only [hr] at hm ⊢
    rw [← hr]
    exact hd (by rw [hr]; exact hm)

theorem serves_remark {n : Note} {Q : Unit → World Machine → Prop}
    (hQ : Q () { w with host := w.host.note n }) :
    Serves (remark n) (Dialogue.remark n) w Q := by
  refine fun _ => ⟨rfl, ?_⟩
  rintro _ _ ⟨rfl, rfl⟩
  exact hQ

theorem run_call (e : Entry) (w : World Machine) :
    (Dialogue.call e).run it w = w.call it e := by
  rw [Dialogue.call, Dialogue.run]
  rcases w.call it e with ⟨p | a, w'⟩ <;> rfl

/-- What a call does, if its counter has room and memory is enough for what it leaves. -/
theorem call_of_ready {r : Except Panic e.Answer × World Machine} (hc : w.call it e = r)
    (hr : w.memory.heap.size ≤ capacity → Ready w.memory e) (hm : r.2.memory.heap.size ≤ capacity) :
    call e (free w) = lifted r := by
  subst hc
  exact call_eq e (hr (Nat.le_trans (call_grows e w.memory) hm)) hm

/-- A call, whose counter must have room. -/
theorem serves_call {Q : e.Answer → World Machine → Prop}
    (hr : w.memory.heap.size ≤ capacity → Ready w.memory e)
    (hQ : ∀ a w', w.call it e = (.ok a, w') → Q a w') :
    Serves (call e) (Dialogue.call e) w Q := by
  intro hm
  rw [run_call] at hm ⊢
  exact ⟨call_of_ready rfl hr hm, hQ⟩

/-- A call whose answer is known, and what follows it. -/
theorem serves_ask {held : List Nat} {k : e.Answer → Dialogue β} {y : e.Answer → Act β}
    {a : e.Answer} (hc : w.call it e = (.ok a, w'))
    (hr : w.memory.heap.size ≤ capacity → Ready w.memory e) (hk : Serves (y a) (k a) w' R) :
    Serves (call e >>= y) (.ask e held k) w R := by
  intro hm
  have hrun : (Dialogue.ask e held k).run it w = (k a).run it w' := by rw [Dialogue.run, hc]
  rw [hrun] at hm ⊢
  rw [act_bind_eq (call_of_ready hc hr (Nat.le_trans (run_grows (k a) w') hm))]
  exact hk hm

/-- A call that the guest panics at. -/
theorem serves_ask_panic {held : List Nat} {k : e.Answer → Dialogue β} {y : e.Answer → Act β}
    {p : Panic} (hc : w.call it e = (.error p, w'))
    (hr : w.memory.heap.size ≤ capacity → Ready w.memory e) :
    Serves (call e >>= y) (.ask e held k) w R := by
  intro hm
  have hrun : (Dialogue.ask e held k).run it w = (.error p, Dialogue.unwind it held w') := by
    rw [Dialogue.run, hc]
  rw [hrun] at hm ⊢
  have hcall := call_of_ready hc hr (Nat.le_trans (unwind_grows held w') hm)
  exact ⟨act_bind_error hcall, fun _ _ h => by cases h⟩

/-- A step of the host's own, which the dialogue does not show. -/
theorem serves_step {s : Step β} {b : β} {y : β → Act α} (hs : s = .ok b)
    (hd : Serves (y b) d w Q) : Serves (Act.step s >>= y) d w Q := by
  intro hm
  rw [act_bind_eq (step_eq hs)]
  exact hd hm

/-! ### Activities that root -/

/-- An activity with its checks: it may fail, and counts what it roots. -/
abbrev Activity (α : Type) := ExceptT Fault (StateT Nat Act) α

namespace Activity

/-- What roots nothing. -/
def inner (x : Act α) : Activity α := ExceptT.lift (StateT.lift x)

/-- Counts one root more; the count is one of 32 bits. -/
def count : Activity Unit := do
  let n ← get
  let _ ← inner (Act.step (short (n + 1)))
  set (n + 1)

/-- Roots an object until the frame closes. -/
def root (x : Obj) : Activity Obj := do
  let x ← inner (call (.protect x))
  count
  return x

/-- The activity, then the release of what it rooted. -/
def close (f : Activity α) : Act (Except Fault α) := do
  let (result, count) ← f.run.run 0
  if 0 < count then call (.unprotect count)
  return result

end Activity

/-- What can be true at the end of an activity: also of how much it has rooted. -/
abbrev Ending (α : Type) := Except Fault α → Nat → World Machine → Prop

/-- An activity, `n` objects being rooted before, does what one without checks does. -/
def Runs (c : Activity α) (f : Frame α) (n : Nat) (w : World Machine) (Q : Ending α) : Prop :=
  Serves (c.run.run n) (f.run.run n) w fun p w' => Q p.1 p.2 w'

section Runs

variable {n : Nat} {c : Activity α} {g : Frame α} {P Q : Ending α} {R : Ending β}

theorem Runs.mono (hc : Runs c g n w P) (hPQ : ∀ r k w', P r k w' → Q r k w') : Runs c g n w Q :=
  Serves.mono hc fun _ _ => hPQ _ _ _

theorem Runs.bind {c' : α → Activity β} {g' : α → Frame β} (hc : Runs c g n w P)
    (hok : ∀ a k w', P (.ok a) k w' → Runs (c' a) (g' a) k w' R)
    (herror : ∀ e k w', P (.error e) k w' → R (.error e) k w') :
    Runs (c >>= c') (g >>= g') n w R := by
  rw [Runs, ExceptT.run_bind, StateT.run_bind]
  refine Serves.bind hc fun p w' hp => ?_
  obtain ⟨e | a, k⟩ := p
  · exact serves_done (herror e k w' hp)
  · exact hok a k w' hp

theorem runs_pure {a : α} (hQ : Q (.ok a) n w) : Runs (pure a) (pure a) n w Q := serves_done hQ

theorem runs_fail {e : Fault} (hQ : Q (.error e) n w) : Runs (throw e) (Frame.fail e) n w Q :=
  serves_done hQ

theorem inner_run (x : Act α) (n : Nat) :
    (Activity.inner x).run.run n = x >>= fun a => pure (.ok a, n) := by
  funext v
  change ((x v >>= fun p => Except.ok ((p.1, n), p.2)) >>= fun p =>
    Except.ok ((Except.ok p.1.1, p.1.2), p.2)) =
      (x v >>= fun p => Except.ok ((Except.ok p.1, n), p.2))
  cases x v <;> rfl

theorem runs_inner (hd : Serves x d w fun a w' => Q (.ok a) n w') :
    Runs (Activity.inner x) (Frame.inner d) n w Q := by
  rw [Runs, inner_run, Frame.run_inner]
  exact (hd.within n).bind fun a w' hQ => serves_done hQ

theorem activity_bind_eq {k : α → Activity β} {a : α} {n' : Nat} {v v' : World Cell}
    (hc : c.run.run n v = .ok ((.ok a, n'), v')) :
    (c >>= k).run.run n v = (k a).run.run n' v' := by
  rw [ExceptT.run_bind, StateT.run_bind, act_bind_eq hc]

/-- One root more is counted without overflow. -/
theorem count_run {v : World Cell} (hn : n < shortTop) :
    Activity.count.run.run n v = .ok ((.ok (), n + 1), v) := by
  have hshort : short ((n : Int) + 1) = .ok ((n : Int) + 1) := short_eq (by omega)
  have hget : (get : Activity Nat).run.run n v = .ok ((.ok n, n), v) := rfl
  have hinner : (Activity.inner (Act.step (short ((n : Int) + 1)))).run.run n v =
      .ok ((.ok ((n : Int) + 1), n), v) := by
    rw [inner_run, act_bind_eq (step_eq hshort)]
    rfl
  rw [Activity.count, activity_bind_eq hget, activity_bind_eq hinner]
  rfl

/-- The object that is rooted is the one that is given. -/
theorem runs_root {y : Obj} {Q : Ending Obj} (hn : n < shortTop)
    (hQ : Q (.ok y) (n + 1) ⟨w.memory.hold y, w.host⟩) :
    Runs (Activity.root y) (Frame.root y) n w Q := by
  intro hm
  have hcall : call (.protect y) (free w) = .ok (y, free ⟨w.memory.hold y, w.host⟩) :=
    call_eq (.protect y) trivial hm
  have hinner : (Activity.inner (call (.protect y))).run.run n (free w) =
      .ok ((.ok y, n), free ⟨w.memory.hold y, w.host⟩) := by
    rw [inner_run, act_bind_eq hcall]
    rfl
  refine ⟨?_, ?_⟩
  · rw [Activity.root, activity_bind_eq hinner, activity_bind_eq (count_run hn)]
    rfl
  · rintro _ _ ⟨⟩
    exact hQ

section Sequences

variable {Q : Ending β} {c : α → Activity β} {g : α → Frame β}

/-- A call whose answer is known, and what follows it. -/
theorem runs_call_bind {c : e.Answer → Activity β} {g : e.Answer → Frame β} {a : e.Answer}
    (hc : w.call it e = (.ok a, w')) (hr : w.memory.heap.size ≤ capacity → Ready w.memory e)
    (hk : Runs (c a) (g a) n w' Q) :
    Runs (Activity.inner (call e) >>= c) (Frame.call e >>= g) n w Q := by
  have hcall : Runs (Activity.inner (call e)) (Frame.call e) n w fun r k w₁ =>
      r = .ok a ∧ k = n ∧ w₁ = w' := by
    refine runs_inner (serves_call hr fun b w₁ hb => ?_)
    cases hc.symm.trans hb
    exact ⟨rfl, rfl, rfl⟩
  refine hcall.bind ?_ ?_
  · rintro _ _ _ ⟨⟨⟩, rfl, rfl⟩
    exact hk
  · rintro _ _ _ ⟨⟨⟩, -⟩

/-- A call that the guest panics at, and what would follow it. -/
theorem runs_call_panic {c : e.Answer → Activity β} {g : e.Answer → Frame β} {p : Panic}
    (hc : w.call it e = (.error p, w')) (hr : w.memory.heap.size ≤ capacity → Ready w.memory e) :
    Runs (Activity.inner (call e) >>= c) (Frame.call e >>= g) n w Q := by
  have hcall : Runs (Activity.inner (call e)) (Frame.call e) n w fun _ _ _ => False := by
    refine runs_inner (serves_call hr fun b w₁ hb => ?_)
    cases hc.symm.trans hb
  exact hcall.bind (fun _ _ _ => False.elim) fun _ _ _ => False.elim

theorem runs_root_bind {c : Obj → Activity β} {g : Obj → Frame β} {y : Obj} (hn : n < shortTop)
    (hk : Runs (c y) (g y) (n + 1) ⟨w.memory.hold y, w.host⟩ Q) :
    Runs (Activity.root y >>= c) (Frame.root y >>= g) n w Q := by
  have hroot : Runs (Activity.root y) (Frame.root y) n w fun r k w₁ =>
      r = .ok y ∧ k = n + 1 ∧ w₁ = ⟨w.memory.hold y, w.host⟩ := runs_root hn ⟨rfl, rfl, rfl⟩
  refine hroot.bind ?_ ?_
  · rintro _ _ _ ⟨⟨⟩, rfl, rfl⟩
    exact hk
  · rintro _ _ _ ⟨⟨⟩, -⟩

theorem runs_remark_bind {c : Unit → Activity β} {g : Unit → Frame β} {note : Note}
    (hk : Runs (c ()) (g ()) n { w with host := w.host.note note } Q) :
    Runs (Activity.inner (remark note) >>= c) (Frame.remark note >>= g) n w Q := by
  have hremark : Runs (Activity.inner (remark note)) (Frame.remark note) n w fun r k w₁ =>
      r = .ok () ∧ k = n ∧ w₁ = { w with host := w.host.note note } :=
    runs_inner (serves_remark ⟨rfl, rfl, rfl⟩)
  refine hremark.bind ?_ ?_
  · rintro _ _ _ ⟨⟨⟩, rfl, rfl⟩
    exact hk
  · rintro _ _ _ ⟨⟨⟩, -⟩

theorem runs_fail_bind {fault : Fault} (hQ : Q (.error fault) n w) :
    Runs ((throw fault : Activity α) >>= c) (Frame.fail fault >>= g) n w Q := by
  refine (runs_fail (Q := fun r k w₁ => r = .error fault ∧ k = n ∧ w₁ = w)
    ⟨rfl, rfl, rfl⟩).bind ?_ ?_
  · rintro _ _ _ ⟨⟨⟩, -⟩
  · rintro _ _ _ ⟨⟨⟩, rfl, rfl⟩
    exact hQ

end Sequences

/-- A call that releases as many roots as there are, if it does not panic. -/
theorem released {k : Nat} {w' : World Machine} (hc : w.call it (.unprotect k) = (.ok (), w')) :
    w' = ⟨w.memory.release k, w.host⟩ := by
  by_cases hk : k ≤ w.memory.roots.length
  · cases (call_unprotect (m := w.memory) (h := w.host) hk).symm.trans hc
    rfl
  · have hreply : Machine.call (.unprotect k) w.memory =
        Machine.panic (.tooManyUnprotected w.memory.roots.length) w.memory := if_neg hk
    cases (call_of_reply (h := w.host) hreply).symm.trans hc

/-- A frame closes with one call, for which the counter must have room. -/
theorem serves_close {Q : Except Fault α → World Machine → Prop} (hc : Runs c g 0 w P)
    (hP : ∀ r k w', P r k w' →
      (w'.memory.heap.size ≤ capacity → w'.memory.unprotects < sizeTop) ∧
        Q r ⟨w'.memory.release k, w'.host⟩ ∧ (k = 0 → Q r w')) :
    Serves (Activity.close c) (Frame.close g) w Q := by
  refine Serves.bind hc fun p w' hp => ?_
  obtain ⟨r, k⟩ := p
  obtain ⟨hu, hQ, hzero⟩ := hP r k w' hp
  dsimp only
  by_cases hpos : 0 < k
  · rw [if_pos hpos, if_pos hpos]
    refine (serves_call (Q := fun _ w₁ => Q r w₁) hu ?_).bind fun _ w₁ hw₁ => serves_done hw₁
    rintro ⟨⟩ w₁ hcall
    exact released hcall ▸ hQ
  · rw [if_neg hpos, if_neg hpos]
    exact serves_done (hzero (Nat.eq_zero_of_not_pos hpos))

end Runs

end GuestRuntime.Checked
