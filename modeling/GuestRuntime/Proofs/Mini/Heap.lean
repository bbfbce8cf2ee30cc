import GuestRuntime.Proofs.Mini.Calls

/-!
The heap of the mini guest, call by call. A call makes at most one object, behind all others, and
that is the one it answers with; the only call that changes an object which is there writes one
element of a string vector. What else an answer holds is one of the two objects that are there from
the beginning. Main statement: `call_appends`.
-/

namespace GuestRuntime.Mini

open Machine

/-- An element of a string vector that is to be another text. -/
structure Write where
  vector : Obj
  index : Int
  text : Bytes

/-- What a write makes of the contents of an object: those of others, and elements that are not
there, are left alone. -/
def Write.on (x : Obj) (v : Value) (w : Write) : Value :=
  match v with
  | .strings es =>
    if w.vector = x ∧ 0 ≤ w.index ∧ w.index < es.length then
      .strings (es.set w.index.toNat w.text)
    else v
  | v => v

/-- What a call writes. -/
def writes : Entry → List Write
  | .setString v i text => [⟨v, i, text⟩]
  | _ => []

/-- The object that an answer holds, unless it is one that was handed in. -/
def returned? : (e : Entry) → e.Answer → Option Obj
  | .allocStrings _, x => some x
  | .parse _, (_, x) => some x
  | .element _ _, x => some x
  | .globalEnv, x => some x
  | .tryEval _ _ _, (_, x) => some x
  | .stringElement _ _, x => some x
  | _, _ => none

/-- The object that a reply holds. -/
def returnedBy (e : Entry) : Except Panic e.Answer → Option Obj
  | .ok a => returned? e a
  | .error _ => none

/-- From `m` to `m'` every object stays where it is, with the writes `ws` made on it. -/
def Keeps (ws : List Write) (m m' : Machine) : Prop :=
  ∀ x v, m.object? x = some v → m'.object? x = some (ws.foldl (Write.on x) v)

/-- From `m` to `m'` the writes `ws` were made and nothing else was done to what is there; one
object was made and returned, or none was made. -/
structure Appends (ws : List Write) (m m' : Machine) (returned : Option Obj) : Prop where
  content : Keeps ws m m'
  made : (m'.heap.size = m.heap.size ∧ ∀ x, returned = some x → x = globalEnv ∨ x = Machine.nil) ∨
    (m'.heap.size = m.heap.size + 1 ∧ returned = some m.next)

variable {m m' m'' : Machine} {x : Obj} {v : Value} {ws ws' : List Write} {r : Option Obj}
  {e : Entry}

/-! ### Contents -/

/-- Only string vectors are written. -/
theorem foldl_on_of_ne (hv : ∀ es, v ≠ .strings es) (ws : List Write) :
    ws.foldl (Write.on x) v = v := by
  induction ws with
  | nil => rfl
  | cons w ws ih =>
    have hon : w.on x v = v := by
      cases v with
      | strings es => exact absurd rfl (hv es)
      | _ => rfl
    rw [List.foldl_cons, hon, ih]

/-- Writes elsewhere leave an object alone. -/
theorem foldl_on_of_other (h : ∀ w ∈ ws, w.vector ≠ x) (v : Value) :
    ws.foldl (Write.on x) v = v := by
  induction ws with
  | nil => rfl
  | cons w ws ih =>
    have hon : w.on x v = v := by
      have hne := h w List.mem_cons_self
      cases v <;> simp [Write.on, hne]
    rw [List.foldl_cons, hon, ih fun w' hw' => h w' (List.mem_cons_of_mem w hw')]

theorem object?_eq (hm : m'.heap = m.heap) (x : Obj) : m'.object? x = m.object? x := by
  rw [object?, object?, hm]

theorem keeps_of_heap (hm : m'.heap = m.heap) : Keeps [] m m' := fun x _ hx =>
  (object?_eq hm x).trans hx

theorem keeps_of_push (hm : m'.heap = m.heap.push v) : Keeps [] m m' := fun x _ hx =>
  (object?_eq (m := m.push v) hm x).trans (object?_push_of m v hx)

theorem Keeps.trans (h : Keeps ws m m') (h' : Keeps ws' m' m'') : Keeps (ws ++ ws') m m'' := by
  intro x v hx
  rw [List.foldl_append]
  exact h' x _ (h x v hx)

/-- What no write is made on is as it was. -/
theorem Keeps.of_other (h : Keeps ws m m') (hx : m.object? x = some v)
    (hws : ∀ w ∈ ws, w.vector ≠ x) : m'.object? x = some v := by
  rw [h x v hx, foldl_on_of_other hws]

/-- Where an object that is there stands. -/
theorem address_of_object? (h : m.object? x = some v) :
    x.address ≠ 0 ∧ x.address - 1 < m.heap.size := by
  unfold object? at h
  by_cases hx : x.address = 0
  · simp [hx] at h
  · rw [if_neg hx] at h
    exact ⟨hx, (Array.getElem?_eq_some_iff.mp h).1⟩

/-- Behind the last slot there is nothing. -/
theorem object?_of_size_lt (h : m.heap.size < x.address) : m.object? x = none := by
  have hne : x.address ≠ 0 := by omega
  have hle : m.heap.size ≤ x.address - 1 := by omega
  simp [object?, hne, hle]

/-- There is an object in every slot. -/
theorem exists_object? (hx : x.address ≠ 0) (h : x.address ≤ m.heap.size) :
    ∃ v, m.object? x = some v := by
  have hlt : x.address - 1 < m.heap.size := by omega
  exact ⟨m.heap[x.address - 1], by simp [object?, hx, hlt]⟩

/-- No slot is taken away. -/
theorem Keeps.size_le (h : Keeps ws m m') : m.heap.size ≤ m'.heap.size := by
  refine Nat.le_of_not_lt fun hlt => ?_
  have hpos : m.heap.size ≠ 0 := by omega
  obtain ⟨v, hx⟩ := exists_object? (x := ⟨m.heap.size⟩) hpos (Nat.le_refl _)
  obtain ⟨-, hsize⟩ := address_of_object? (h _ _ hx)
  simp only at hsize
  omega

/-- One object's contents replaced. -/
theorem object?_set {y : Obj} {u : Value} (hx : m.object? x = some v) (hy : m.object? y = some u)
    (v' : Value) : ({ m with heap := m.heap.set! (x.address - 1) v' } : Machine).object? y =
      some (if x = y then v' else u) := by
  obtain ⟨hx0, hxlt⟩ := address_of_object? hx
  obtain ⟨hy0, hylt⟩ := address_of_object? hy
  by_cases hxy : x = y
  · subst hxy
    rw [if_pos rfl, object?, if_neg hx0]
    simp [hxlt]
  · have hne : x.address - 1 ≠ y.address - 1 := by
      intro heq
      have haddress : x.address = y.address := by omega
      exact hxy (by cases x; cases y; simp_all)
    rw [if_neg hxy, ← hy, object?, object?, if_neg hy0, if_neg hy0]
    simp [Array.getElem?_setIfInBounds_ne hne]

/-! ### Calls -/

theorem appends_of_heap (hm : m'.heap = m.heap)
    (hr : ∀ x, r = some x → x = globalEnv ∨ x = Machine.nil) : Appends [] m m' r where
  content := keeps_of_heap hm
  made := .inl ⟨congrArg Array.size hm, hr⟩

theorem appends_refl (m : Machine) : Appends [] m m none := appends_of_heap rfl nofun

theorem appends_of_push (hm : m'.heap = m.heap.push v) : Appends [] m m' (some m.next) where
  content := keeps_of_push hm
  made := .inr ⟨by rw [hm, Array.size_push], rfl⟩

/-- What looks at an object does nothing if there is none. -/
theorem appends_withObject {k : Value → Step e.Answer}
    (hk : ∀ v, Appends [] m (k v m).memory (returnedBy e (k v m).outcome)) :
    Appends [] m (withObject x k m).memory (returnedBy e (withObject x k m).outcome) := by
  unfold withObject
  split
  · exact hk _
  · exact appends_refl m

theorem appends_elementAt {β : Type} {l : List β} {i : Int} {k : β → Step e.Answer}
    (hk : ∀ b, Appends [] m (k b m).memory (returnedBy e (k b m).outcome)) :
    Appends [] m (elementAt l i k m).memory (returnedBy e (elementAt l i k m).outcome) := by
  unfold elementAt
  split
  · exact hk _
  · exact appends_refl m

theorem appends_parseStrings (es : List Bytes) (x : Obj) :
    Appends [] m (parseStrings es m).memory
      (returnedBy (.parse x) (parseStrings es m).outcome) := by
  unfold parseStrings
  split
  · next exprs _ =>
    exact appends_of_push (heap_leak (m.push (.exprs exprs)) m.next)
  · refine appends_of_heap rfl ?_
    rintro y ⟨⟩
    exact .inr rfl

theorem appends_tryEval (e : Expr) (x env : Obj) (flag : Int) :
    Appends [] m (tryEval e env m).memory
      (returnedBy (.tryEval x env flag) (tryEval e env m).outcome) := by
  unfold tryEval
  split
  · exact appends_of_push rfl
  · unfold failing
    split
    · exact appends_of_heap rfl nofun
    · refine appends_of_heap rfl ?_
      rintro y ⟨⟩
      exact .inr rfl

/-- A string that is set: the vector is there and has the element, or nothing is done. -/
theorem appends_setString (x : Obj) (i : Int) (text : Bytes) :
    Appends [⟨x, i, text⟩] m (setString x i text m).memory none := by
  unfold setString
  split
  · next es hes =>
    split
    · next hi =>
      refine ⟨fun y u hy => ?_, .inl ⟨Array.size_setIfInBounds, nofun⟩⟩
      refine (object?_set hes hy _).trans (congrArg some ?_)
      by_cases hxy : x = y
      · subst hxy
        obtain rfl : u = .strings es := Option.some.inj (hy.symm.trans hes)
        simp [Write.on, hi]
      · rw [if_neg hxy, foldl_on_of_other (by simpa using hxy)]
    · next hi =>
      refine ⟨fun y u hy => ?_, .inl ⟨rfl, nofun⟩⟩
      by_cases hxy : x = y
      · subst hxy
        obtain rfl : u = .strings es := Option.some.inj (hy.symm.trans hes)
        have hon : Write.on x (.strings es) ⟨x, i, text⟩ = .strings es := by
          simp only [Write.on, true_and, if_neg hi]
        rw [List.foldl_cons, List.foldl_nil, hon]
        exact hy
      · rw [foldl_on_of_other (by simpa using hxy)]
        exact hy
  · next hno =>
    refine ⟨fun y u hy => ?_, .inl ⟨rfl, nofun⟩⟩
    by_cases hxy : x = y
    · subst hxy
      rw [foldl_on_of_ne fun es hes => hno es (hy.trans (congrArg some hes))]
      exact hy
    · rw [foldl_on_of_other (by simpa using hxy)]
      exact hy

/-- What every call does to the heap, answered or not. -/
theorem call_appends (e : Entry) (m : Machine) :
    Appends (writes e) m (Machine.call e m).memory (returnedBy e (Machine.call e m).outcome) := by
  cases e with
  | setString v i text =>
    have hnone : returnedBy (.setString v i text) (Machine.call (.setString v i text) m).outcome =
        none := by
      cases (Machine.call (.setString v i text) m).outcome <;> rfl
    rw [hnone]
    exact appends_setString v i text
  | boot arguments | unprotect n | finish fatal =>
    rw [Machine.call]
    dsimp only
    split <;> exact appends_of_heap rfl nofun
  | allocStrings n =>
    rw [Machine.call]
    split
    · exact appends_of_push rfl
    · exact appends_refl m
  | globalEnv =>
    refine appends_of_heap rfl ?_
    rintro x ⟨⟩
    exact .inl rfl
  | parse x =>
    refine appends_withObject fun v => ?_
    cases v with
    | strings es => exact appends_parseStrings es x
    | _ => exact appends_refl m
  | element v i =>
    refine appends_withObject fun v => ?_
    cases v with
    | exprs es => exact appends_elementAt fun e => appends_of_push rfl
    | _ => exact appends_refl m
  | stringElement v i =>
    refine appends_withObject fun v => ?_
    cases v with
    | strings es => exact appends_elementAt fun b => appends_of_push rfl
    | _ => exact appends_refl m
  | tryEval x env flag =>
    refine appends_withObject fun v => ?_
    cases v with
    | lang e => exact appends_tryEval e x env flag
    | _ => exact appends_of_push rfl
  | length x | kindOf x => exact appends_withObject fun v => appends_refl m
  | chars x | bytes x | integers x | logicals x | reals x =>
    exact appends_withObject fun v => by cases v <;> exact appends_refl m
  | _ => exact appends_of_heap rfl nofun

end GuestRuntime.Mini
