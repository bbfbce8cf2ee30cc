import Mathlib.Data.List.Nodup
import GuestRuntime.Fleet
import GuestRuntime.Proofs.Fleet.Numbering
import GuestRuntime.Proofs.Mini.Lifecycle

/-!
Several sessions in one process, their operations in any order. Each shows what it would show if the
others were not there, and the handles tell the sessions apart:

        op₁ op₂' op₃ op₁' op₂ …      one process, one console, one count
        │   ·    ·   │    ·
        op₁          op₁'            the session alone, in any process

A ledger has the handles in the order in which they were given; what is in it stays, and numbers in
it go up by one. Main statement: `interleave_apart`.
-/

namespace GuestRuntime.Mini

open Fleet

abbrev MiniMember := Member Provider TheGuest Machine

abbrev MiniFleet := Fleet Provider TheGuest Machine

/-- A session that has not been started, in no process yet. -/
def newMember (p : Provider) (running : Bool) : MiniMember :=
  { source := p, memory := { initialized := running } }

/-- Operations, each on the session at an index, and what each shows; there is nothing to show where
no session is. -/
def interleave (f : MiniFleet) : List (Nat × Op) → List (Nat × Seen) × MiniFleet
  | [] => ([], f)
  | (i, op) :: steps =>
    match f.on i (observe op) with
    | none => interleave f steps
    | some (x, f) => ((i, x) :: (interleave f steps).1, (interleave f steps).2)

/-- Operations on one session alone, and what each shows. -/
def observeAll (s : MiniSession) : List Op → List Seen
  | [] => []
  | op :: ops => (observe op s).1 :: observeAll (observe op s).2 ops

/-- What is at an index, in order. -/
def at? {α : Type} (i : Nat) (l : List (Nat × α)) : List α :=
  l.filterMap fun p => if p.1 = i then some p.2 else none

/-- A handle in the words it is kept in. -/
def packed (h : Handle) : UInt64 × Ownership := (UInt64.ofNat h.serial, h.ownership)

/-- Whether a session was ever started. -/
def hasStarted (m : MiniMember) : Bool := m.lifecycle.state ≠ .uninitialized

variable {f f' : MiniFleet} {i : Nat} {m : MiniMember} {s : MiniSession} {op : Op} {x : Seen}

theorem at?_cons_self {α : Type} (a : α) (l : List (Nat × α)) :
    at? i ((i, a) :: l) = a :: at? i l := by
  simp [at?]

theorem at?_cons_of_ne {α : Type} {j : Nat} (h : j ≠ i) (a : α) (l : List (Nat × α)) :
    at? i ((j, a) :: l) = at? i l := by
  simp [at?, h]

/-- An operation on the session at an index. -/
theorem on_of_getElem? (hm : f.members[i]? = some m) (op : Op) :
    f.on i (observe op) = some ((observe op (join m f.host)).1,
      ⟨(observe op (join m f.host)).2.world.host,
        f.members.set i (leave (observe op (join m f.host)).2)⟩) := by
  simp only [on, hm, Option.map_some]

theorem on_of_none (hm : f.members[i]? = none) (op : Op) : f.on i (observe op) = none := by
  simp only [on, hm, Option.map_none]

/-! ### Each session is as if alone -/

/-- What the session at an index shows is what its twin shows alone. -/
theorem interleave_alone {s : MiniSession} (hm : f.members[i]? = some m)
    (htwin : Twin (join m f.host) s) (steps : List (Nat × Op)) :
    (at? i (interleave f steps).1).map Seen.unnumbered =
      (observeAll s (at? i steps)).map Seen.unnumbered := by
  induction steps generalizing f m s with
  | nil => rfl
  | cons step steps ih =>
    obtain ⟨j, op⟩ := step
    unfold interleave
    by_cases hj : j = i
    · subst hj
      obtain ⟨hseen, hleft⟩ := htwin.observe op
      have hset : (f.members.set j (leave (observe op (join m f.host)).2))[j]? =
          some (leave (observe op (join m f.host)).2) := by
        rw [List.getElem?_set_self']
        simp [hm]
      rw [on_of_getElem? hm]
      simp only [at?_cons_self, observeAll, List.map_cons, hseen]
      exact congrArg _ (ih hset hleft)
    · rw [at?_cons_of_ne hj]
      cases hmj : f.members[j]? with
      | none =>
        rw [on_of_none hmj]
        exact ih hm htwin
      | some mj =>
        have hset : (f.members.set j (leave (observe op (join mj f.host)).2))[i]? = some m := by
          rw [List.getElem?_set_ne hj, hm]
        rw [on_of_getElem? hmj]
        simp only [at?_cons_of_ne hj]
        exact ih hset ⟨htwin.source, htwin.stage, htwin.memory⟩

/-! ### The ledger of handles -/

/-- The handles given since the count stood at `n`, newest first, with the indices of their
sessions. -/
structure Ledger (n : Nat) (given : List (Nat × Handle)) (f : MiniFleet) : Prop where
  next : f.host.nextSerial = n + given.length
  range : ∀ p ∈ given, n ≤ p.2.serial ∧ p.2.serial < n + given.length
  serials : (given.map fun p => p.2.serial).Nodup
  indices : (given.map Prod.fst).Nodup
  handles : ∀ i m h, f.members[i]? = some m → (join m f.host).handle? = some h → (i, h) ∈ given
  fresh : ∀ i m, f.members[i]? = some m → m.lifecycle.state = .uninitialized →
    i ∉ given.map Prod.fst
  length : given.length = f.members.countP hasStarted

variable {n : Nat} {given : List (Nat × Handle)}

/-- The fleet after one of its sessions has changed, and with it the process. -/
def after (f : MiniFleet) (i : Nat) (s : MiniSession) : MiniFleet :=
  ⟨s.world.host, f.members.set i (leave s)⟩

/-- A session after it has changed, or one that has not. -/
theorem getElem?_after {j : Nat} {m' : MiniMember} (h : (after f i s).members[j]? = some m') :
    (j = i ∧ m' = leave s) ∨ (j ≠ i ∧ f.members[j]? = some m') := by
  by_cases hj : j = i
  · subst hj
    refine .inl ⟨rfl, ?_⟩
    rw [after, List.getElem?_set] at h
    simp only [if_true] at h
    split at h
    · exact (Option.some.inj h).symm
    · cases h
  · refine .inr ⟨hj, ?_⟩
    rwa [after, List.getElem?_set_ne (Ne.symm hj)] at h

theorem getElem?_after_self (hm : f.members[i]? = some m) :
    (after f i s).members[i]? = some (leave s) := by
  obtain ⟨hi, -⟩ := List.getElem?_eq_some_iff.mp hm
  simp [after, hi]

theorem countP_after (hm : f.members[i]? = some m) :
    (after f i s).members.countP hasStarted + (if hasStarted m then 1 else 0) =
      f.members.countP hasStarted + if hasStarted (leave s) then 1 else 0 := by
  obtain ⟨hi, rfl⟩ := List.getElem?_eq_some_iff.mp hm
  have hpos : hasStarted f.members[i] → 0 < f.members.countP hasStarted := fun h =>
    List.countP_pos_iff.mpr ⟨_, List.getElem_mem hi, h⟩
  rw [after, List.countP_set hi]
  split
  · have := hpos ‹_›
    omega
  · omega

theorem hasStarted_iff : hasStarted m ↔ m.lifecycle.state ≠ .uninitialized := by
  simp [hasStarted]

theorem Ledger.keep (h : Ledger n given f) (hm : f.members[i]? = some m)
    (hn : nextOf s = f.host.nextSerial)
    (hu : s.state = .uninitialized ↔ m.lifecycle.state = .uninitialized)
    (hh : ∀ hd, s.handle? = some hd → (join m f.host).handle? = some hd) :
    Ledger n given (after f i s) where
  next := hn.trans h.next
  range := h.range
  serials := h.serials
  indices := h.indices
  handles j m' hd hj hhd := by
    rcases getElem?_after hj with ⟨rfl, rfl⟩ | ⟨-, hj⟩
    · exact h.handles j m hd hm (hh hd hhd)
    · exact h.handles j m' hd hj hhd
  fresh j m' hj hstate := by
    rcases getElem?_after hj with ⟨rfl, rfl⟩ | ⟨-, hj⟩
    · exact h.fresh j m hm (hu.mp hstate)
    · exact h.fresh j m' hj hstate
  length := by
    have hcount := countP_after (s := s) hm
    have hafter : hasStarted (leave s) ↔ s.state ≠ .uninitialized := hasStarted_iff
    have hsame : hasStarted m = hasStarted (leave s) :=
      Bool.eq_iff_iff.mpr (hasStarted_iff.trans ((not_congr hu).symm.trans hafter.symm))
    rw [hsame] at hcount
    rw [h.length]
    omega

/-- A session that starts is given the next handle. -/
theorem Ledger.give (h : Ledger n given f) (hm : f.members[i]? = some m) {hd : Handle}
    (hu : m.lifecycle.state = .uninitialized) (hn : nextOf s = f.host.nextSerial + 1)
    (hh : s.handle? = some hd) (hserial : hd.serial = f.host.nextSerial) :
    Ledger n ((i, hd) :: given) (after f i s) where
  next := by
    rw [List.length_cons, ← Nat.add_assoc, ← h.next]
    exact hn
  range := by
    have hnew : hd.serial = n + given.length := hserial.trans h.next
    refine List.forall_mem_cons.mpr ⟨?_, fun p hp => ?_⟩
    · simp only [List.length_cons, hnew]
      omega
    · have := h.range p hp
      simp only [List.length_cons]
      omega
  serials := by
    refine List.nodup_cons.mpr ⟨fun hmem => ?_, h.serials⟩
    obtain ⟨p, hp, hpn⟩ := List.mem_map.mp hmem
    have hlt := (h.range p hp).2
    rw [← h.next, ← hserial, hpn] at hlt
    exact Nat.lt_irrefl _ hlt
  indices := List.nodup_cons.mpr ⟨h.fresh i m hm hu, h.indices⟩
  handles j m' hd' hj hhd := by
    rcases getElem?_after hj with ⟨rfl, rfl⟩ | ⟨-, hj⟩
    · obtain rfl : hd = hd' := Option.some.inj (hh.symm.trans hhd)
      exact List.mem_cons_self
    · exact List.mem_cons_of_mem _ (h.handles j m' hd' hj hhd)
  fresh j m' hj hstate := by
    rcases getElem?_after hj with ⟨rfl, rfl⟩ | ⟨hne, hj⟩
    · have hrunning := (handle?_isSome_iff s).mp (by rw [hh]; rfl)
      cases hrunning.symm.trans hstate
    · exact List.not_mem_cons_of_ne_of_not_mem hne (h.fresh j m' hj hstate)
  length := by
    have hcount := countP_after (s := s) hm
    have hrunning : s.state = .running := (handle?_isSome_iff s).mp (by rw [hh]; rfl)
    have hbefore : hasStarted m = false := by
      rw [Bool.eq_false_iff, ne_eq, hasStarted_iff]
      exact not_not.mpr hu
    have hafter : hasStarted (leave s) = true := by
      refine hasStarted_iff.mpr fun hstate => ?_
      cases hrunning.symm.trans hstate
    rw [hbefore, hafter] at hcount
    simpa [h.length] using hcount.symm

/-- An operation adds to the ledger at most, and what handles it shows are in it. -/
theorem Ledger.step (h : Ledger n given f) (hm : f.members[i]? = some m) (op : Op) :
    ∃ given', given ⊆ given' ∧ Ledger n given' (after f i (observe op (join m f.host)).2) ∧
      ∀ hd ∈ (observe op (join m f.host)).1.handles, (i, hd) ∈ given' := by
  obtain ⟨hnum, hshown⟩ := observe_numbers (join m f.host) op
  generalize (observe op (join m f.host)).2 = s at hnum hshown
  suffices ∃ given', given ⊆ given' ∧ Ledger n given' (after f i s) by
    obtain ⟨given', hsub, hledger⟩ := this
    refine ⟨given', hsub, hledger, fun hd hmem => ?_⟩
    exact hledger.handles i _ hd (getElem?_after_self hm) (hshown hd hmem)
  cases hnum with
  | keeps hn hu hh => exact ⟨given, fun _ => id, h.keep hm hn hu hh⟩
  | @gives o hu hn hh => exact ⟨_, List.subset_cons_self _ _, h.give hm hu hn hh rfl⟩

/-- After any operations there is a ledger that has every handle that was shown. -/
theorem Ledger.run (h : Ledger n given f) (steps : List (Nat × Op)) :
    ∃ given', given ⊆ given' ∧ Ledger n given' (interleave f steps).2 ∧
      ∀ i x, (i, x) ∈ (interleave f steps).1 → ∀ hd ∈ x.handles, (i, hd) ∈ given' := by
  induction steps generalizing f given with
  | nil => exact ⟨given, fun _ => id, h, by simp [interleave]⟩
  | cons step steps ih =>
    obtain ⟨j, op⟩ := step
    unfold interleave
    cases hm : f.members[j]? with
    | none =>
      rw [on_of_none hm]
      exact ih h
    | some m =>
      obtain ⟨given₁, hsub, hledger, hshown⟩ := h.step hm op
      obtain ⟨given', hsub', hledger', hshown'⟩ := ih hledger
      rw [on_of_getElem? hm]
      refine ⟨given', List.Subset.trans hsub hsub', hledger', fun i x hmem hd hhd => ?_⟩
      rcases List.mem_cons.mp hmem with hx | hx
      · cases hx
        exact hsub' (hshown hd hhd)
      · exact hshown' i x hx hd hhd

theorem ledger_new (host : Host) (ps : List (Provider × Bool)) :
    Ledger host.nextSerial [] ⟨host, ps.map fun p => newMember p.1 p.2⟩ where
  next := rfl
  range := by simp
  serials := .nil
  indices := .nil
  handles i m h hm hh := by
    obtain ⟨p, -, rfl⟩ := List.mem_map.mp (List.mem_of_getElem? hm)
    cases hh
  fresh := by simp
  length := by
    refine (List.countP_eq_zero.mpr fun m hm => ?_).symm
    obtain ⟨p, -, rfl⟩ := List.mem_map.mp hm
    exact Bool.false_ne_true

/-- In a ledger that the words are wide enough for, handles are equal in them exactly if they are of
the same session. -/
theorem Ledger.packed_eq_iff (h : Ledger n given f) (hlength : given.length < UInt64.size)
    {i j : Nat} {h₁ h₂ : Handle} (hi : (i, h₁) ∈ given) (hj : (j, h₂) ∈ given) :
    packed h₁ = packed h₂ ↔ i = j := by
  constructor
  · intro heq
    have hwords : h₁.serial % UInt64.size = h₂.serial % UInt64.size := by
      have hfst := congrArg UInt64.toNat (congrArg Prod.fst heq)
      simpa only [packed, UInt64.toNat_ofNat'] using hfst
    have hr₁ := h.range _ hi
    have hr₂ := h.range _ hj
    dsimp only at hr₁ hr₂
    have hserial : h₁.serial = h₂.serial := by
      unfold UInt64.size at hlength hwords
      omega
    exact congrArg Prod.fst (List.inj_on_of_nodup_map h.serials hi hj hserial)
  · rintro rfl
    exact congrArg (fun p : Nat × Handle => packed p.2)
      (List.inj_on_of_nodup_map h.indices hi hj rfl)

/-- Any operations on any number of sessions in one process, in any order: what each session shows
is what it would show alone in a process of its own, but for the number of its handle; and any two
handles that are shown, in words of 64 bits, are equal exactly if they are of the same session,
unless more sessions have started than there are numbers. -/
theorem interleave_apart (ps : List (Provider × Bool)) (host : Host) (steps : List (Nat × Op)) :
    let r := interleave ⟨host, ps.map fun p => newMember p.1 p.2⟩ steps
    (∀ i p, ps[i]? = some p → ∀ other, (at? i r.1).map Seen.unnumbered =
      (observeAll (newSession p.1 p.2 other) (at? i steps)).map Seen.unnumbered) ∧
    (r.2.members.countP hasStarted < UInt64.size → ∀ i x j y, (i, x) ∈ r.1 → (j, y) ∈ r.1 →
      ∀ h₁ ∈ x.handles, ∀ h₂ ∈ y.handles, packed h₁ = packed h₂ ↔ i = j) := by
  refine ⟨fun i p hp other => ?_, fun hcount i x j y hx hy h₁ hh₁ h₂ hh₂ => ?_⟩
  · have hm : (ps.map fun p => newMember p.1 p.2)[i]? = some (newMember p.1 p.2) := by
      simp [hp]
    have htwin : Twin (join (newMember p.1 p.2) host) (newSession p.1 p.2 other) :=
      ⟨rfl, .uninitialized, rfl⟩
    exact interleave_alone (f := ⟨host, ps.map fun p => newMember p.1 p.2⟩) hm htwin steps
  · obtain ⟨given, -, hledger, hshown⟩ := (ledger_new host ps).run steps
    rw [← hledger.length] at hcount
    exact hledger.packed_eq_iff hcount (hshown i x hx h₁ hh₁) (hshown j y hy h₂ hh₂)

/-- Two sessions that start in one process have different handles. -/
theorem interleave_apart_two :
    ∃ x y, (interleave ⟨bareHost, [newMember {} false, newMember {} false]⟩
        [(0, .start), (1, .start)]).1 = [(0, x), (1, y)] ∧
      ∃ h₁ ∈ x.handles, ∃ h₂ ∈ y.handles, packed h₁ ≠ packed h₂ := by
  have hapart := (interleave_apart [({}, false), ({}, false)] bareHost
    [(0, .start), (1, .start)]).2 (show 2 < UInt64.size by decide)
  refine ⟨_, _, rfl, ⟨1, .owned⟩, .head _, ⟨2, .owned⟩, .head _, fun heq => ?_⟩
  have hsame := (hapart 0 _ 1 _ (.head _) (.tail _ (.head _)) _ (.head _) _ (.head _)).mp heq
  exact absurd hsame (by decide)

end GuestRuntime.Mini
