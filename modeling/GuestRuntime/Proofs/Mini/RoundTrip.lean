import GuestRuntime.Proofs.Mini.Constant
import GuestRuntime.Proofs.Number.Whole

/-!
What survives the way into the guest and back. Strings go in as literals and come back joined, bytes
go in as numbers and come back as bytes; neither changes anything in the guest.

        "it's", 'a b' ──▶ paste0("it's", 'a b') ──▶ it'sa b
        7, 255        ──▶ as.raw(c(7, 255))     ──▶ 7, 255

Main statements: `evaluate_paste0` and `evaluate_as_raw`.
-/

namespace GuestRuntime.Mini

open Dialogue TheGuest Machine Terminated Token

variable {s : MiniSession} {env : Option Obj}

/-! ### Strings -/

/-- A string that can be sent, and the quote that it is written between. -/
structure Quotation where
  quote : Char
  text : String
  isQuote : IsQuote quote
  isSendable : IsSendable text

/-- A string as it stands in a code. -/
def Quotation.source (q : Quotation) : List Char := literal q.quote q.text

theorem texts_ofText {t : String} (ht : IsSendable t) : (Value.ofText t).texts = [t] := by
  have hkept : t.toList.filter (· != '\x00') = t.toList := by
    rw [List.filter_eq_self]
    intro c hc
    have hne : c ≠ '\x00' := by
      rintro rfl
      exact ht hc
    simp [hne]
  simp [Value.ofText, Value.texts, decodeLossy_withoutNul, hkept]

/-- What the host keeps of one string. -/
theorem marshaled_ofText {t : String} (ht : IsSendable t) (x : Obj) :
    (Value.ofText t).marshaled x = .text t := by
  have htexts := texts_ofText ht
  simp only [Value.ofText, Value.texts, List.map_cons, List.map_nil, List.cons.injEq, and_true]
    at htexts
  simp [Value.ofText, Value.marshaled, htexts]

theorem flatMap_texts_ofText {ts : List String} (ht : ∀ t ∈ ts, IsSendable t) :
    (ts.map Value.ofText).flatMap Value.texts = ts := by
  induction ts with
  | nil => rfl
  | cons t ts ih =>
    obtain ⟨ht, hts⟩ := List.forall_mem_cons.mp ht
    rw [List.map_cons, List.flatMap_cons, texts_ofText ht, ih hts]
    rfl

theorem denotes_paste0 {ts : List String} (ht : ∀ t ∈ ts, IsSendable t) :
    (Expr.call "paste0" (ts.map .str)).Denotes (.ofText (String.join ts)) := by
  refine .call (forall₂_map Expr.denotes_str ts) (if_neg (by decide)) ?_
  intro s
  rw [builtin, flatMap_texts_ofText ht]

theorem isWritten_quotations (l : List Quotation) :
    List.Forall₂ IsWritten ((l.map Quotation.text).map .str) (l.map Quotation.source) := by
  rw [List.map_map]
  refine forall₂_map ?_ l
  intro q
  exact isWritten_literal q.isQuote q.text

/-- Strings that are written as literals, whatever is in them, come back joined and otherwise
unchanged. -/
theorem evaluate_paste0 {g : TheGuest} {hd : Handle} (hs : s.lifecycle = .running g hd)
    (hl : s.world.memory.leaky = false) (henv : environment env = globalEnv)
    (l : List Quotation) :
    ∃ s', s.evaluate (String.ofList (callText "paste0" (l.map Quotation.source))) env =
        (.ok (.ok (.text (String.join (l.map Quotation.text)))), s') ∧ Undisturbed s s' := by
  have hsendable : ∀ t ∈ l.map Quotation.text, IsSendable t := by
    intro t ht
    obtain ⟨q, -, rfl⟩ := List.mem_map.mp ht
    exact q.isSendable
  have hname : IsName "paste0" :=
    ⟨'p', "aste0".toList, rfl, by decide, List.all_eq_true.mp (by decide)⟩
  have hexpr : (Expr.call "paste0" ((l.map Quotation.text).map .str)).IsSendable := by
    refine .call ?_
    intro e he
    obtain ⟨t, ht, rfl⟩ := List.mem_map.mp he
    exact .str (hsendable t ht)
  have hcode := IsWritten.call hname (isWritten_quotations l)
  obtain ⟨x, s', heval, hkept⟩ := hcode.evaluate hexpr (denotes_paste0 hsendable) hs hl henv
  rw [marshaled_ofText (isSendable_join hsendable)] at heval
  exact ⟨s', heval, hkept⟩

/-- Quotes, a comment sign, a backslash and a line end are all kept. -/
theorem evaluate_paste0_quotes : ∃ s',
    plainSession.evaluate "paste0('it\\'s', \"# \\\\;\n\")" none =
      (.ok (.ok (.text "it's# \\;\n")), s') ∧ Undisturbed plainSession s' := by
  have henv : environment none = globalEnv := rfl
  have hpaste := evaluate_paste0 (s := plainSession) rfl rfl henv
    [⟨'\'', "it's", .inr rfl, by decide⟩, ⟨'"', "# \\;\n", .inl rfl, by decide⟩]
  have hcode : String.ofList (callText "paste0"
      [literal '\'' "it's", literal '"' "# \\;\n"]) = "paste0('it\\'s', \"# \\\\;\n\")" := by
    decide
  have htext : String.join ["it's", "# \\;\n"] = "it's# \\;\n" := by decide
  simp only [List.map_cons, List.map_nil, Quotation.source, hcode, htext] at hpaste
  exact hpaste

/-! ### Bytes -/

/-- A byte as it stands in a code. -/
def byteText (b : UInt8) : List Char := Nat.toDigits 10 b.toNat

/-- Digits are read as the number that they denote. -/
theorem number?_toDigits (n : Nat) : number? (Nat.toDigits 10 n) = some (Double.ofNat n) := by
  have hdigit : ∀ c ∈ Nat.toDigits 10 n, (c != '.') = true := by
    intro c hc
    have hc : c.isDigit := Nat.isDigit_of_mem_toDigits (by decide) (by decide) hc
    rw [bne_iff_ne]
    rintro rfl
    exact absurd hc (by decide)
  have hcount : (Nat.toDigits 10 n).count '.' = 0 := by
    rw [List.count_eq_zero]
    intro hc
    simpa using hdigit '.' hc
  have hvalue : digitsValue (Nat.toDigits 10 n) = n :=
    Nat.ofDigitChars_toDigits (by decide) (by decide)
  rw [number?, if_pos (by omega), List.filter_eq_self.mpr hdigit,
    List.dropWhile_eq_nil_iff.mpr hdigit, hvalue]
  rfl

theorem isWritten_byte (b : UInt8) :
    IsWritten (.num (Double.ofNat b.toNat)) (byteText b) := by
  have hdigit : ∀ c ∈ byteText b, c.isDigit := by
    intro c hc
    exact Nat.isDigit_of_mem_toDigits (by decide) (by decide) hc
  obtain ⟨c, r, hcr⟩ : ∃ c r, byteText b = c :: r := List.exists_cons_of_ne_nil Nat.toDigits_ne_nil
  have hnumeral : IsNumeral (byteText b) := by
    rw [hcr] at hdigit
    obtain ⟨hc, hr⟩ := List.forall_mem_cons.mp hdigit
    refine ⟨c, r, hcr, hc, ?_⟩
    intro d hd
    simp [continuesNumber, hr d hd]
  exact isWritten_of_isSpelled (.num · _) (.num hnumeral (number?_toDigits b.toNat))

/-- The bytes as numbers. -/
def numbersOf (b : Bytes) : List Double := b.map fun x => .ofNat x.toNat

/-- Single numbers joined are numbers, unless there are none. -/
theorem numbers?_combine (l : List Double) :
    (combine (l.map fun x => .reals [x])).numbers? = some l := by
  cases l with
  | nil => rfl
  | cons x l => simp [combine, List.flatMap_map, Value.numbers?]

theorem denotes_as_raw (b : Bytes) :
    (Expr.call "as.raw" [.call "c" ((numbersOf b).map .num)]).Denotes (.bytes b) := by
  have hjoined : (Expr.call "c" ((numbersOf b).map .num)).Denotes
      (combine ((numbersOf b).map fun x => .reals [x])) := by
    refine .call (forall₂_map Expr.denotes_num _) (if_neg (by decide)) ?_
    intro s
    rfl
  have hback : (numbersOf b).map Double.toByte = b := by
    simp [numbersOf, Function.comp_def, Double.toByte_ofNat]
  refine .call (.cons hjoined .nil) (if_neg (by decide)) ?_
  intro s
  simp only [builtin, List.head?_cons, Option.bind_some, numbers?_combine, hback]

theorem isWritten_bytes (b : Bytes) :
    List.Forall₂ IsWritten ((numbersOf b).map .num) (b.map byteText) := by
  rw [numbersOf, List.map_map]
  exact forall₂_map isWritten_byte b

/-- Bytes that are written as numbers come back as these bytes, all of them and in order. -/
theorem evaluate_as_raw {g : TheGuest} {hd : Handle} (hs : s.lifecycle = .running g hd)
    (hl : s.world.memory.leaky = false) (henv : environment env = globalEnv) (b : Bytes) :
    ∃ s', s.evaluate (String.ofList (callText "as.raw" [callText "c" (b.map byteText)])) env =
        (.ok (.ok (.bytes b)), s') ∧ Undisturbed s s' := by
  have hc : IsName "c" := ⟨'c', [], rfl, by decide, by simp⟩
  have hraw : IsName "as.raw" :=
    ⟨'a', "s.raw".toList, rfl, by decide, List.all_eq_true.mp (by decide)⟩
  have hexpr : (Expr.call "as.raw" [.call "c" ((numbersOf b).map .num)]).IsSendable := by
    refine .call ?_
    intro e he
    rw [List.mem_singleton.mp he]
    refine .call ?_
    intro e he
    obtain ⟨x, -, rfl⟩ := List.mem_map.mp he
    exact .num _
  have hcode := IsWritten.call hraw (.cons (.call hc (isWritten_bytes b)) .nil)
  obtain ⟨x, s', heval, hkept⟩ := hcode.evaluate hexpr (denotes_as_raw b) hs hl henv
  exact ⟨s', heval, hkept⟩

/-- The least and the greatest byte, and one between them. -/
theorem evaluate_as_raw_extremes : ∃ s',
    plainSession.evaluate "as.raw(c(0, 7, 255))" none = (.ok (.ok (.bytes [0, 7, 255])), s') ∧
      Undisturbed plainSession s' := by
  have henv : environment none = globalEnv := rfl
  have hraw := evaluate_as_raw (s := plainSession) rfl rfl henv [0, 7, 255]
  have hcode : String.ofList (callText "as.raw" [callText "c" ([0, 7, 255].map byteText)]) =
      "as.raw(c(0, 7, 255))" := by
    decide
  rw [hcode] at hraw
  exact hraw

end GuestRuntime.Mini
