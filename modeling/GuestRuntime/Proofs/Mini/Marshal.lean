import GuestRuntime.Guest.Marshal
import GuestRuntime.Proofs.Mini.Calls

/-!
Marshaling from the mini guest. What the host keeps of an object is a function of its value and, for
what has no form of the host's own, of its address. Main statement: `ends_marshal`.
-/

namespace GuestRuntime.Mini

open Dialogue TheGuest

/-- The text of a number where none is the missing one. -/
def realForm (x : Double) : String :=
  if x.isNaN then "NaN"
  else if x.isInfinite then if x.isNegative then "-Inf" else "Inf"
  else x.roundedText

/-- What the host keeps of a value that stands at an address. -/
def Value.marshaled (x : Obj) : Value → HostValue
  | .chars b => .text (Utf8.decodeLossy b)
  | .strings (b :: _) => .text (Utf8.decodeLossy b)
  | .bytes b => .bytes b
  | .reals [y] => .text (realForm y)
  | .ints [i] => .text (integerText i)
  | .lgls [i] => .text (logicalText i)
  | _ => .object x

/-- Marshaling a string vector makes an object of its first string. -/
def Machine.marshaling (m : Machine) : Value → Machine
  | .strings (b :: _) => m.push (.chars b)
  | _ => m

open Machine

variable {m : Machine} {h : Host} {x : Obj}

theorem quiet_charsText {b : Bytes} (ho : m.object? x = some (.chars b)) :
    Ends it (charsText x) ⟨m, h⟩ (Quiet (Utf8.decodeLossy b) ⟨m, h⟩) :=
  quiet_ask (call_chars ho) rfl rfl quiet_done

/-- The text of a number is asked about only if it is none. -/
theorem quiet_realText (y : Double) :
    Ends it (realText y) ⟨m, h⟩ (Quiet (realForm y) ⟨m, h⟩) := by
  unfold realText realForm
  split
  · exact quiet_ask (call_isMissing y) rfl rfl quiet_done
  · split
    · exact quiet_done
    · exact quiet_done

/-- A vector that is shown as text if it has one element only. -/
theorem quiet_single {v : Value} {d : Dialogue HostValue} {t : HostValue}
    (ho : m.object? x = some v) (hd : Ends it d ⟨m, h⟩ (Quiet t ⟨m, h⟩)) :
    Ends it ((single x).bind fun one => if one = true then d else done (.object x)) ⟨m, h⟩
      (Quiet (if v.length = 1 then t else .object x) ⟨m, h⟩) := by
  have hone : Ends it (single x) ⟨m, h⟩ (Quiet ((v.length : Int) == 1) ⟨m, h⟩) :=
    quiet_ask (call_length ho) rfl rfl quiet_done
  refine quiet_bind hone ?_
  by_cases hv : v.length = 1
  · simpa [hv] using hd
  · have hi : ¬ (v.length : Int) = 1 := by omega
    simpa [hv, hi] using quiet_done (g := it)

/-- The one element of a vector, if it has no other. -/
theorem marshaled_ints (l : List Int) : (Value.ints l).marshaled x =
    if (Value.ints l).length = 1 then .text (integerText (l.headD 0)) else .object x := by
  rcases l with _ | ⟨y, _ | ⟨z, l⟩⟩ <;> simp [Value.marshaled, Value.length]

theorem marshaled_lgls (l : List Int) : (Value.lgls l).marshaled x =
    if (Value.lgls l).length = 1 then .text (logicalText (l.headD 0)) else .object x := by
  rcases l with _ | ⟨y, _ | ⟨z, l⟩⟩ <;> simp [Value.marshaled, Value.length]

theorem marshaled_reals (l : List Double) : (Value.reals l).marshaled x =
    if (Value.reals l).length = 1 then .text (realForm (l.headD ⟨0⟩)) else .object x := by
  rcases l with _ | ⟨y, _ | ⟨z, l⟩⟩ <;> simp [Value.marshaled, Value.length]

theorem ends_marshal {v : Value} (ho : m.object? x = some v) :
    Ends it (marshal x) ⟨m, h⟩ (Quiet (v.marshaled x) ⟨m.marshaling v, h⟩) := by
  simp only [marshal, Dialogue.call, Dialogue.bind_eq, Dialogue.bind, pure_eq]
  refine quiet_ask (call_kindOf ho) rfl rfl ?_
  simp only [Kind.chars, Kind.strings, Kind.bytes, Kind.reals, Kind.integers, Kind.logicals]
  cases v with
  | nil | env | exprs | lang => exact quiet_done
  | chars b => exact quiet_bind (quiet_charsText ho) quiet_done
  | strings l =>
    refine quiet_ask (call_length ho) rfl rfl ?_
    cases l with
    | nil => exact quiet_done
    | cons b bs =>
      have hb : (m.push (.chars b)).object? m.next = some (.chars b) := object?_push_next _ _
      rw [if_pos (by simp [Value.length])]
      refine quiet_ask (call_stringElement ho) rfl rfl ?_
      exact quiet_bind (quiet_charsText hb) quiet_done
  | bytes b =>
    refine quiet_ask (call_length ho) rfl rfl ?_
    cases b with
    | nil => exact quiet_done
    | cons b bs =>
      rw [if_neg (by simp [Value.length])]
      refine quiet_ask (call_bytes ho) rfl rfl ?_
      rw [List.take_of_length_le (by simp [Value.length])]
      exact quiet_done
  | reals l =>
    rw [marshaled_reals]
    exact quiet_single ho
      (quiet_ask (call_reals ho) rfl rfl (quiet_bind (quiet_realText _) quiet_done))
  | ints l =>
    rw [marshaled_ints]
    exact quiet_single ho (quiet_ask (call_integers ho) rfl rfl quiet_done)
  | lgls l =>
    rw [marshaled_lgls]
    exact quiet_single ho (quiet_ask (call_logicals ho) rfl rfl quiet_done)

end GuestRuntime.Mini
