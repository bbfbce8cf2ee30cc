import GuestRuntime.Proofs.Mini.Marshal

/-!
Marshaling, read by read. A call that finds text or elements gives a pointer to them, and the host
reads what is behind it cell by cell:

        chars ──▶ │ b₀ │ b₁ │ … │ 0 │        vectors ──▶ │ e₀ │ e₁ │ … │

Only the length and the kind, which it looks at first, tell the host which cells there are. A read
of any other cell strays. Main statement: `marshal_reads`.
-/

namespace GuestRuntime.Mini

/-- The strings in the value hold no zero; the one that terminates them is not counted. -/
def Value.IsTerminated : Value → Prop
  | .chars b => 0 ∉ b
  | .strings l => ∀ b ∈ l, 0 ∉ b
  | _ => True

namespace Reads

open Dialogue TheGuest Machine

/-- What a look at the guest's memory can come to instead of an answer. -/
inductive Stray
  | panic (p : Panic)
  /-- There is no such cell. -/
  | outside (x : Obj) (cell : Nat)
  deriving DecidableEq, Repr

/-- A look at the guest's memory. -/
abbrev Look (α : Type) := StateT Machine (Except Stray) α

/-- A pointer to the cells of an object. -/
structure Pointer (α : Type) where
  object : Obj
  cells : List α

section Definitions

variable {α : Type}

def Pointer.read (p : Pointer α) (i : Nat) : Look α :=
  match p.cells[i]? with
  | some a => return a
  | none => throw (.outside p.object i)

/-- The first `n` cells. -/
def Pointer.slice (p : Pointer α) : Nat → Look (List α)
  | 0 => return []
  | n + 1 => do
    let before ← p.slice n
    return before ++ [← p.read n]

/-- The bytes of some cells, the first of them being cell `i`, up to one that is zero. -/
def textFrom (x : Obj) (i : Nat) : List UInt8 → Look Bytes
  | [] => throw (.outside x i)
  | b :: r => if b = 0 then return [] else return b :: (← textFrom x (i + 1) r)

/-- The text behind a pointer, which ends where its terminator is. -/
def Pointer.text (p : Pointer UInt8) : Look Bytes := textFrom p.object 0 p.cells

/-- A call. -/
def ask (e : Entry) : Look e.Answer := fun m =>
  match Machine.call e m with
  | ⟨.ok a, m, _⟩ => .ok (a, m)
  | ⟨.error p, _, _⟩ => .error (.panic p)

/-- The text of a character scalar; a null pointer has none. -/
def charsText (x : Obj) : Look String := do
  match ← ask (.chars x) with
  | none => return ""
  | some b => return Utf8.decodeLossy (← Pointer.text ⟨x, b ++ [0]⟩)

/-- The text of a number; only of a NaN is it asked whether it is the missing value. -/
def realText (y : Double) : Look String := do
  if y.isNaN then
    if ← ask (.isMissing y) then return "NA" else return "NaN"
  else if y.isInfinite then
    return if y.isNegative then "-Inf" else "Inf"
  else
    return y.roundedText

/-- What the host keeps of an object, as it finds it out. -/
def marshal (x : Obj) : Look HostValue := do
  let kind ← ask (.kindOf x)
  if kind = Kind.chars then
    return .text (← charsText x)
  else if kind = Kind.strings then
    if 0 < (← ask (.length x)) then
      return .text (← charsText (← ask (.stringElement x 0)))
    else
      return .object x
  else if kind = Kind.bytes then
    let n := (← ask (.length x)).toNat
    if n = 0 then
      return .bytes []
    else
      return .bytes (← Pointer.slice ⟨x, ← ask (.bytes x)⟩ n)
  else if kind = Kind.reals then
    if (← ask (.length x)) = 1 then
      return .text (← realText (← Pointer.read ⟨x, ← ask (.reals x)⟩ 0))
    else
      return .object x
  else if kind = Kind.integers then
    if (← ask (.length x)) = 1 then
      return .text (integerText (← Pointer.read ⟨x, ← ask (.integers x)⟩ 0))
    else
      return .object x
  else if kind = Kind.logicals then
    if (← ask (.length x)) = 1 then
      return .text (logicalText (← Pointer.read ⟨x, ← ask (.logicals x)⟩ 0))
    else
      return .object x
  else
    return .object x

end Definitions

/-- What is kept of a value that stands at an address, kind by kind. -/
inductive Keeps (x : Obj) : Value → HostValue → Prop
  | chars (b) : Keeps x (.chars b) (.text (Utf8.decodeLossy b))
  | string (b bs) : Keeps x (.strings (b :: bs)) (.text (Utf8.decodeLossy b))
  | noString : Keeps x (.strings []) (.object x)
  | bytes (b) : Keeps x (.bytes b) (.bytes b)
  | real (y) : Keeps x (.reals [y]) (.text (realForm y))
  | reals {l} (hl : l.length ≠ 1) : Keeps x (.reals l) (.object x)
  | missingInt : Keeps x (.ints [missingInteger]) (.text "NA")
  | int {i} (hi : i ≠ missingInteger) : Keeps x (.ints [i]) (.text (toString i))
  | ints {l} (hl : l.length ≠ 1) : Keeps x (.ints l) (.object x)
  | missingLogical : Keeps x (.lgls [missingInteger]) (.text "NA")
  | falsehood : Keeps x (.lgls [0]) (.text "FALSE")
  | truth {i} (hi : i ≠ missingInteger) (hi' : i ≠ 0) : Keeps x (.lgls [i]) (.text "TRUE")
  | lgls {l} (hl : l.length ≠ 1) : Keeps x (.lgls l) (.object x)
  | nil : Keeps x .nil (.object x)
  | env : Keeps x .env (.object x)
  | exprs (es) : Keeps x (.exprs es) (.object x)
  | lang (e) : Keeps x (.lang e) (.object x)

/-- Marshaling the value at an address gives `r` and leaves `m'`. -/
structure Marshals (m : Machine) (x : Obj) (v : Value) (r : HostValue) (m' : Machine) : Prop where
  run (h : Host) : (Dialogue.marshal x).run it ⟨m, h⟩ = (.ok r, ⟨m', h⟩)
  /-- No call panics, and every cell that is read is there. -/
  reads : marshal x m = .ok (r, m')
  keeps : Keeps x v r
  /-- At most a character scalar is made; all else of the guest is as it was. -/
  makes : m' = m ∨ ∃ b, m' = m.push (.chars b)
  /-- The answer has one form. -/
  form : [r.asText.isSome, r.asBytes.isSome, r.asObject.isSome].count true = 1

variable {α β : Type} {m m' : Machine} {x : Obj} {v : Value}

/-! ### Reads of cells that are there -/

theorem look_bind {l : Look α} {f : α → Look β} {a : α} (h : l m = .ok (a, m')) :
    (l >>= f) m = f a m' := by
  change (l m >>= fun p => f p.1 p.2) = _
  rw [h]
  rfl

theorem textFrom_terminated {b : Bytes} (hb : 0 ∉ b) (i : Nat) :
    textFrom x i (b ++ [0]) m = .ok (b, m) := by
  induction b generalizing i with
  | nil => rfl
  | cons c b ih =>
    obtain ⟨hc, hb⟩ := not_or.mp (mt List.mem_cons.mpr hb)
    rw [List.cons_append, textFrom, if_neg (Ne.symm hc)]
    exact look_bind (ih hb (i + 1))

theorem read_of_lt {p : Pointer α} {i : Nat} (hi : i < p.cells.length) :
    p.read i m = .ok (p.cells[i], m) := by
  rw [Pointer.read, List.getElem?_eq_getElem hi]
  rfl

theorem slice_take {p : Pointer α} {n : Nat} (hn : n ≤ p.cells.length) :
    p.slice n m = .ok (p.cells.take n, m) := by
  induction n with
  | zero => rfl
  | succ n ih =>
    rw [Pointer.slice, look_bind (ih (by omega)), look_bind (read_of_lt hn),
      List.take_succ_eq_append_getElem hn]
    rfl

/-! ### Calls -/

theorem ask_of_object {e : Entry} {k : Value → Machine.Step e.Answer} {a : e.Answer}
    {cs : List Callback} (he : Machine.call e m = withObject x k m) (ho : m.object? x = some v)
    (hk : k v m = ⟨.ok a, m', cs⟩) : ask e m = .ok (a, m') := by
  rw [ask, he, withObject_some ho, hk]

theorem ask_kindOf (ho : m.object? x = some v) : ask (.kindOf x) m = .ok (v.kind, m) :=
  ask_of_object (e := .kindOf x) (k := fun v => answer v.kind) rfl ho rfl

theorem ask_length (ho : m.object? x = some v) : ask (.length x) m = .ok ((v.length : Int), m) :=
  ask_of_object (e := .length x) (k := fun v => answer (v.length : Int)) rfl ho rfl

theorem charsText_of_chars {b : Bytes} (ho : m.object? x = some (.chars b)) (hb : 0 ∉ b) :
    charsText x m = .ok (Utf8.decodeLossy b, m) := by
  rw [charsText, look_bind (ask_of_object rfl ho rfl)]
  exact look_bind (textFrom_terminated hb 0)

theorem realText_eq (y : Double) : realText y m = .ok (realForm y, m) := by
  unfold realText realForm
  split
  · rfl
  · split <;> rfl

/-- A vector is looked into if it has exactly one element. -/
theorem ite_single {t : Look HostValue} {r : HostValue} (ho : m.object? x = some v)
    (ht : v.length = 1 → t m = .ok (r, m)) :
    (ask (.length x) >>= fun n => if n = 1 then t else return .object x) m =
      .ok (if v.length = 1 then r else .object x, m) := by
  rw [look_bind (ask_length ho)]
  by_cases hv : v.length = 1
  · have hi : (v.length : Int) = 1 := by omega
    rw [if_pos hi, if_pos hv, ht hv]
  · have hi : ¬ (v.length : Int) = 1 := by omega
    rw [if_neg hi, if_neg hv]
    rfl

/-- Marshaling strays nowhere. -/
theorem marshal_eq (ho : m.object? x = some v) (hv : v.IsTerminated) :
    marshal x m = .ok (v.marshaled x, m.marshaling v) := by
  rw [marshal, look_bind (ask_kindOf ho)]
  cases v with
  | nil | env | exprs | lang => rfl
  | chars b => exact look_bind (charsText_of_chars ho hv)
  | strings l =>
    refine (look_bind (ask_length ho)).trans ?_
    cases l with
    | nil => rfl
    | cons b bs =>
      have hb : (m.push (.chars b)).object? m.next = some (.chars b) := object?_push_next _ _
      have helement : ask (.stringElement x 0) m = .ok (m.next, m.push (.chars b)) :=
        ask_of_object rfl ho rfl
      rw [if_pos (by simp [Value.length]), look_bind helement]
      exact look_bind (charsText_of_chars hb (hv b (by simp)))
  | bytes b =>
    refine (look_bind (ask_length ho)).trans ?_
    cases b with
    | nil => rfl
    | cons c b =>
      rw [if_neg (by simp [Value.length]), look_bind (ask_of_object rfl ho rfl)]
      refine (look_bind (slice_take (Nat.le_refl _))).trans ?_
      rw [List.take_of_length_le (Nat.le_refl _)]
      rfl
  | reals l =>
    rw [marshaled_reals]
    refine ite_single ho fun hl => ?_
    obtain ⟨y, rfl⟩ := List.length_eq_one_iff.mp hl
    rw [look_bind (ask_of_object rfl ho rfl), look_bind (read_of_lt Nat.zero_lt_one)]
    exact look_bind (realText_eq y)
  | ints l =>
    rw [marshaled_ints]
    refine ite_single ho fun hl => ?_
    obtain ⟨i, rfl⟩ := List.length_eq_one_iff.mp hl
    rw [look_bind (ask_of_object rfl ho rfl), look_bind (read_of_lt Nat.zero_lt_one)]
    rfl
  | lgls l =>
    rw [marshaled_lgls]
    refine ite_single ho fun hl => ?_
    obtain ⟨i, rfl⟩ := List.length_eq_one_iff.mp hl
    rw [look_bind (ask_of_object rfl ho rfl), look_bind (read_of_lt Nat.zero_lt_one)]
    rfl

/-! ### What is kept -/

theorem keeps_ints (l : List Int) : Keeps x (.ints l) ((Value.ints l).marshaled x) := by
  rw [marshaled_ints]
  split
  · next hl =>
    obtain ⟨i, rfl⟩ := List.length_eq_one_iff.mp hl
    by_cases hi : i = missingInteger
    · subst hi
      exact .missingInt
    · rw [List.headD_cons, integerText, if_neg hi]
      exact .int hi
  · next hl => exact .ints hl

theorem keeps_lgls (l : List Int) : Keeps x (.lgls l) ((Value.lgls l).marshaled x) := by
  rw [marshaled_lgls]
  split
  · next hl =>
    obtain ⟨i, rfl⟩ := List.length_eq_one_iff.mp hl
    rw [List.headD_cons, logicalText]
    split
    · next hi =>
      subst hi
      exact .missingLogical
    · next hi =>
      split
      · next hz =>
        subst hz
        exact .falsehood
      · next hz => exact .truth hi hz
  · next hl => exact .lgls hl

theorem keeps_marshaled (x : Obj) (v : Value) : Keeps x v (v.marshaled x) := by
  cases v with
  | nil => exact .nil
  | env => exact .env
  | exprs es => exact .exprs es
  | lang e => exact .lang e
  | chars b => exact .chars b
  | bytes b => exact .bytes b
  | strings l =>
    cases l with
    | nil => exact .noString
    | cons b bs => exact .string b bs
  | reals l =>
    rw [marshaled_reals]
    split
    · next hl =>
      obtain ⟨y, rfl⟩ := List.length_eq_one_iff.mp hl
      exact .real y
    · next hl => exact .reals hl
  | ints l => exact keeps_ints l
  | lgls l => exact keeps_lgls l

/-- What any object of the guest is marshaled to, and what is read and made for that. -/
theorem marshal_reads (ho : m.object? x = some v) (hv : v.IsTerminated) :
    ∃ r m', Marshals m x v r m' := by
  refine ⟨v.marshaled x, m.marshaling v, fun h => ?_, marshal_eq ho hv, keeps_marshaled x v, ?_, ?_⟩
  · obtain ⟨_, _, hrun, rfl, -, -, rfl⟩ := ends_marshal (h := h) ho
    exact hrun
  · unfold marshaling
    split
    · exact .inr ⟨_, rfl⟩
    · exact .inl rfl
  · cases v.marshaled x <;> rfl

/-- A string that is no text, among the objects of a guest. -/
theorem marshal_reads_broken :
    ∃ m : Machine, m.object? ⟨3⟩ = some (.strings [[0xFF, 0x68], []]) ∧
      (Value.strings [[0xFF, 0x68], []]).IsTerminated ∧
      ∃ r m', Marshals m ⟨3⟩ (.strings [[0xFF, 0x68], []]) r m' := by
  have ho : (({} : Machine).push (.strings [[0xFF, 0x68], []])).object? ⟨3⟩ = _ :=
    object?_push_next {} _
  have hv : (Value.strings [[0xFF, 0x68], []]).IsTerminated := by
    simp [Value.IsTerminated]
  exact ⟨_, ho, hv, marshal_reads ho hv⟩

end Reads
end GuestRuntime.Mini
