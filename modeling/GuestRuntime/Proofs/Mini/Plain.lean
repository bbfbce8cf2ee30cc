import GuestRuntime.Proofs.Mini.Diagnostic
import GuestRuntime.Proofs.Number.Digits
import GuestRuntime.Proofs.Syntax.Shape

/-!
Text inside the mini guest ends at its first zero, so no text that comes from a value has one:
numbers are shown without, strings are stored without, and what a function makes of them is so
again. Names have none because they are words, and a failure's message is made of names and texts.
Main statements: `Value.IsPlain.texts` and `builtin_isDecent`.
-/

namespace GuestRuntime.Mini

open Terminated

/-! ### Values -/

/-- No string of the value has a zero. -/
def Value.IsPlain : Value → Prop
  | .strings es => ∀ b ∈ es, IsSendable (Utf8.decodeLossy b)
  | .chars b => IsSendable (Utf8.decodeLossy b)
  | _ => True

/-- The texts of a plain value. -/
theorem Value.IsPlain.texts {v : Value} (h : v.IsPlain) : ∀ t ∈ v.texts, IsSendable t := by
  intro t ht
  cases v with
  | strings es =>
    obtain ⟨b, hb, rfl⟩ := List.mem_map.mp ht
    exact h b hb
  | chars b =>
    rw [List.mem_singleton.mp ht]
    exact h
  | bytes l =>
    obtain ⟨b, -, rfl⟩ := List.mem_map.mp ht
    exact isSendable_hexOfBytes b
  | lgls l =>
    obtain ⟨b, -, rfl⟩ := List.mem_map.mp ht
    split
    · decide
    · decide
  | reals l | ints l =>
    obtain ⟨x, -, rfl⟩ := List.mem_map.mp ht
    exact x.isSendable_plainText
  | nil | env | exprs es | lang e => cases ht

theorem isPlain_ofTexts (l : List String) : (Value.ofTexts l).IsPlain := by
  intro b hb
  obtain ⟨t, -, rfl⟩ := List.mem_map.mp hb
  simp [IsSendable, decodeLossy_withoutNul]

theorem isPlain_combine (args : List Value) : (combine args).IsPlain := by
  unfold combine
  dsimp only
  split
  · trivial
  split
  · exact isPlain_ofTexts _
  · trivial

/-! ### Failures -/

/-- A result of which `P` is true, or a failure whose message can be sent. -/
def IsDecent {α : Type} (P : α → Prop) : Except EvalError α → Prop
  | .ok a => P a
  | .error why => IsSendable why.message

theorem isSendable_append {a b : String} (ha : IsSendable a) (hb : IsSendable b) :
    IsSendable (a ++ b) := by
  unfold IsSendable at *
  simp [ha, hb]

theorem Token.IsWord.isSendable {name : String} (h : Token.IsWord name) : IsSendable name :=
  fun hc => absurd (h _ hc) (by decide)

theorem arithmetic_isDecent (op : Char) (l r : Value) :
    IsDecent Value.IsPlain (arithmetic op l r) := by
  unfold arithmetic
  extract_lets general
  have hgeneral : IsDecent Value.IsPlain general := by
    unfold general
    split
    · trivial
    · exact (by decide : IsSendable EvalError.notNumeric.message)
  split
  · split
    · exact hgeneral
    · trivial
  · exact hgeneral

theorem lengthArgument_eq_error {args : List Value} {why : EvalError}
    (h : lengthArgument args = .error why) : why = .badLength := by
  unfold lengthArgument at h
  split at h
  · split at h <;> cases h
    rfl
  · cases h
    rfl

theorem allocated_isDecent {size : Nat} {args : List Value} {f : Nat → Value}
    (hf : ∀ n, (f n).IsPlain) : IsDecent Value.IsPlain ((allocated size args).map f) := by
  cases hn : lengthArgument args with
  | error why =>
    obtain rfl := lengthArgument_eq_error hn
    rw [allocated_of_error hn]
    exact (by decide : IsSendable EvalError.badLength.message)
  | ok n =>
    rw [allocated_of_ok hn]
    split
    · exact hf n
    · exact (by decide : IsSendable EvalError.oversized.message)

/-- What a function gives of plain arguments. -/
theorem builtin_isDecent (s : Scratch) {name : String} {args : List Value}
    (hname : Token.IsWord name) (hargs : ∀ v ∈ args, v.IsPlain) :
    IsDecent Value.IsPlain (builtin s name args) := by
  have htexts : IsSendable (String.join (args.flatMap Value.texts)) := by
    refine isSendable_join fun t ht => ?_
    obtain ⟨v, hv, ht⟩ := List.mem_flatMap.mp ht
    exact (hargs v hv).texts t ht
  have hhead : (args.head?.getD .nil).IsPlain := by
    cases args with
    | nil => trivial
    | cons v r => exact hargs v List.mem_cons_self
  unfold builtin
  split
  · exact htexts
  · exact isPlain_combine args
  · exact allocated_isDecent fun n => trivial
  · split
    · trivial
    · exact (by decide : IsSendable EvalError.notBytes.message)
  · refine allocated_isDecent fun n b hb => ?_
    rw [List.eq_of_mem_replicate hb]
    exact (by decide : IsSendable (Utf8.decodeLossy []))
  · trivial
  · exact isPlain_ofTexts _
  · exact isPlain_ofTexts [_]
  · exact hhead
  · exact hhead
  · trivial
  · split
    · exact isPlain_ofTexts [_]
    · exact (by decide : IsSendable EvalError.noMessage.message)
    · trivial
  · split
    · exact isPlain_ofTexts _
    · exact (by decide : IsSendable EvalError.missingArgument.message)
  · refine isSendable_append (isSendable_append (by decide) hname.isSendable) (by decide)

end GuestRuntime.Mini
