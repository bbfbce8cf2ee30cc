import Mathlib.Data.List.TakeWhile
import GuestRuntime.Proofs.Mini.Operand

/-!
The values that there are. Evaluation gives few of the guest's objects: nothing, strings, bytes,
doubles, and one integer or one truth value at a time; and every string it gives is UTF-8 without a
zero, so that reading it as text and sending it again changes nothing. That is so of the value of
every part of every expression, from globals of which it is so:

        regular globals ──part──▶ regular value, regular globals ──next part──▶ …

Main statements: `builtin_isRegular`, `upholds_eval` and `Reaches.isRegular`.
-/

namespace GuestRuntime.Mini

open Terminated

variable {α β : Type} {b : Bytes} {v : Value} {args : List Value} {name : String}

/-! ### Strings -/

/-- Bytes that are the text they read as, and have no zero. -/
structure IsClean (b : Bytes) : Prop where
  decoded : Utf8.encode (Utf8.decodeLossy b) = b
  zero : 0 ∉ b

theorem IsClean.isSendable (h : IsClean b) : IsSendable (Utf8.decodeLossy b) :=
  isSendable_iff.mpr (h.decoded.symm ▸ nulAt?_eq_none.mpr h.zero)

/-- A reader sees all of it. -/
theorem IsClean.upToNul_eq (h : IsClean b) : upToNul b = b := by
  refine List.takeWhile_eq_self_iff.mpr fun x hx => ?_
  simp only [bne_iff_ne, ne_eq]
  rintro rfl
  exact h.zero hx

/-- It can be sent as the text it reads as, and arrives. -/
theorem IsClean.ofText_eq (h : IsClean b) : ofText (Utf8.decodeLossy b) = .ok b := by
  rw [ofText_of_notMem h.isSendable, h.decoded]

theorem isClean_encode {t : String} (h : IsSendable t) : IsClean (Utf8.encode t) where
  decoded := by rw [Utf8.decodeLossy_encode]
  zero hz := h ((Utf8.zero_mem_encodeChars _).mp hz)

theorem isClean_withoutNul (t : String) : IsClean (withoutNul t) := by
  have hsendable : IsSendable (String.ofList (t.toList.filter (· != '\x00'))) := by
    simp [IsSendable]
  simpa [Utf8.encode, withoutNul] using isClean_encode hsendable

/-! ### Values -/

/-- What an expression can have as its value. -/
inductive Value.IsRegular : Value → Prop
  | nil : IsRegular .nil
  | strings {es} (h : ∀ b ∈ es, IsClean b) : IsRegular (.strings es)
  | bytes (l) : IsRegular (.bytes l)
  | reals (l) : IsRegular (.reals l)
  | int (n) : IsRegular (.ints [n])
  | lgl {n} (h : n = 0 ∨ n = 1) : IsRegular (.lgls [n])

theorem Value.IsRegular.isPlain (h : v.IsRegular) : v.IsPlain := by
  cases h with
  | strings h => exact fun b hb => (h b hb).isSendable
  | _ => trivial

theorem isRegular_ofTexts (l : List String) : (Value.ofTexts l).IsRegular := by
  refine .strings fun b hb => ?_
  obtain ⟨t, -, rfl⟩ := List.mem_map.mp hb
  exact isClean_withoutNul t

theorem isRegular_combine (args : List Value) : (combine args).IsRegular := by
  unfold combine
  dsimp only
  split
  · exact .bytes _
  split
  · exact isRegular_ofTexts _
  · exact .reals _

theorem arithmetic_isRegular {op : Char} {l r : Value} (h : arithmetic op l r = .ok v) :
    v.IsRegular := by
  unfold arithmetic at h
  extract_lets general at h
  have hgeneral : general = .ok v → v.IsRegular := by
    intro hv
    unfold general at hv
    split at hv <;> cases hv
    exact .reals _
  split at h
  · split at h
    · exact hgeneral h
    · cases h
      exact .int _
  · exact hgeneral h

theorem allocated_isRegular {size : Nat} {f : Nat → Value} (hf : ∀ n, (f n).IsRegular)
    (h : (allocated size args).map f = .ok v) : v.IsRegular := by
  cases hn : allocated size args with
  | error why => simp [hn, Except.map] at h
  | ok n =>
    obtain rfl : f n = v := by simpa [hn, Except.map] using h
    exact hf n

/-- What a function gives of regular arguments. -/
theorem builtin_isRegular {s : Scratch} (hargs : ∀ v ∈ args, v.IsRegular)
    (h : builtin s name args = .ok v) : v.IsRegular := by
  have hhead : (args.head?.getD .nil).IsRegular := by
    cases args with
    | nil => exact .nil
    | cons v r => exact hargs v List.mem_cons_self
  unfold builtin at h
  split at h
  · cases h
  · cases h
    exact isRegular_combine args
  · exact allocated_isRegular (fun n => .bytes _) h
  · split at h <;> cases h
    exact .bytes _
  · refine allocated_isRegular (fun n => .strings fun b hb => ?_) h
    rw [List.eq_of_mem_replicate hb]
    exact isClean_encode (t := "") (by decide)
  · cases h
    exact .reals _
  · cases h
    exact isRegular_ofTexts _
  · cases h
    exact isRegular_ofTexts [_]
  · cases h
    exact hhead
  · cases h
    exact hhead
  · cases h
    exact .nil
  · split at h <;> cases h
    · exact isRegular_ofTexts [_]
    · exact .nil
  · split at h <;> cases h
    exact isRegular_ofTexts _
  · cases h

/-! ### Globals -/

/-- Every value that is bound is regular. -/
def Globals.IsRegular (g : Globals) : Prop := ∀ b ∈ g, b.2.IsRegular

variable {g : Globals}

theorem Globals.IsRegular.isPlain (h : g.IsRegular) : g.IsPlain := fun b hb => (h b hb).isPlain

theorem Globals.IsRegular.lookup (hg : g.IsRegular) (h : List.lookup name g = some v) :
    v.IsRegular := by
  obtain ⟨l, r, rfl, -⟩ := List.lookup_eq_some_iff.mp h
  exact hg (name, v) (by simp)

theorem Globals.IsRegular.set (hg : g.IsRegular) (hv : v.IsRegular) : (g.set name v).IsRegular := by
  intro b hb
  rcases List.mem_cons.mp hb with rfl | hb
  · exact hv
  · exact hg b (List.mem_filter.mp hb).1

/-! ### Evaluation -/

/-- From regular globals the computation leaves regular globals, and what it gives has `P`. -/
def Upholds (c : Eval α) (P : α → Prop) : Prop :=
  ∀ s, s.globals.IsRegular → ∀ r t, c.run s = (r, t) →
    t.globals.IsRegular ∧ ∀ a, r = .ok a → P a

section

variable {c : Eval α} {P : α → Prop} {Q : β → Prop}

theorem upholds_pure {a : α} (h : P a) : Upholds (pure a) P := by
  rintro s hs r t ⟨⟩
  refine ⟨hs, ?_⟩
  rintro _ ⟨⟩
  exact h

theorem upholds_throw (why : EvalError) : Upholds (throw why) P := by
  rintro s hs r t ⟨⟩
  exact ⟨hs, nofun⟩

theorem upholds_get_bind {f : Scratch → Eval α}
    (h : ∀ s, s.globals.IsRegular → Upholds (f s) P) : Upholds (get >>= f) P :=
  fun s hs r t hr => h s hs s hs r t hr

theorem upholds_modify {f : Scratch → Scratch}
    (h : ∀ s, s.globals.IsRegular → (f s).globals.IsRegular) :
    Upholds (modify f) fun _ => True := by
  rintro s hs r t ⟨⟩
  exact ⟨h s hs, fun _ _ => trivial⟩

theorem Upholds.bind {f : α → Eval β} (h : Upholds c P) (hf : ∀ a, P a → Upholds (f a) Q) :
    Upholds (c >>= f) Q := by
  intro s hs r t hr
  obtain ⟨r₁, s₁, hc⟩ : ∃ r₁ s₁, c.run s = (r₁, s₁) := ⟨_, _, rfl⟩
  obtain ⟨hs₁, hP⟩ := h s hs r₁ s₁ hc
  rw [run_bind_of f hc] at hr
  cases r₁ with
  | ok a => exact hf a (hP a rfl) s₁ hs₁ r t hr
  | error why =>
    cases hr
    exact ⟨hs₁, nofun⟩

end

/-- What gives a value or fails as a result says. -/
theorem upholds_result {r : Except EvalError Value} (h : ∀ v, r = .ok v → v.IsRegular) :
    Upholds (match r with
      | .ok v => return v
      | .error why => throw why) Value.IsRegular := by
  cases r with
  | ok v => exact upholds_pure (h v rfl)
  | error why => exact upholds_throw why

theorem upholds_apply (hargs : ∀ v ∈ args, v.IsRegular) :
    Upholds (apply name args) Value.IsRegular := by
  have hbuiltin : Upholds (do match builtin (← get) name args with
      | .ok v => return v
      | .error why => throw why) Value.IsRegular :=
    upholds_get_bind fun s _ => upholds_result fun v hv => builtin_isRegular hargs hv
  unfold apply
  cases printed? name args with
  | none => exact hbuiltin
  | some text =>
    exact Upholds.bind (upholds_modify fun s hs => hs) fun _ _ => hbuiltin

mutual

/-- The value of every expression is regular, if the globals are. -/
theorem upholds_eval : ∀ e : Expr, Upholds (eval e) Value.IsRegular
  | .num x => by rw [eval]; exact upholds_pure (.reals _)
  | .int n => by rw [eval]; exact upholds_pure (.int n)
  | .str s => by rw [eval]; exact upholds_pure (isRegular_ofTexts [s])
  | .lgl b => by
    rw [eval]
    refine upholds_pure (.lgl ?_)
    cases b <;> simp
  | .null => by rw [eval]; exact upholds_pure .nil
  | .ident name => by
    rw [eval]
    refine upholds_get_bind fun s hs => ?_
    cases hv : List.lookup name s.globals with
    | some v => exact upholds_pure (hs.lookup hv)
    | none => exact upholds_throw _
  | .assign name rhs => by
    rw [eval]
    refine (upholds_eval rhs).bind fun v hv => ?_
    exact Upholds.bind (upholds_modify fun s hs => hs.set hv) fun _ _ => upholds_pure hv
  | .neg e => by
    rw [eval]
    refine (upholds_eval e).bind fun v hv => ?_
    cases v.numbers? with
    | some xs => exact upholds_pure (.reals _)
    | none => exact upholds_throw _
  | .binary op l r => by
    rw [eval]
    refine (upholds_eval l).bind fun l hl => (upholds_eval r).bind fun r hr => ?_
    exact upholds_result fun v hv => arithmetic_isRegular hv
  | .call name args => by
    rw [eval]
    exact (upholds_evalAll args).bind fun vs hvs => upholds_apply hvs

theorem upholds_evalAll : ∀ es : List Expr, Upholds (evalAll es) (∀ v ∈ ·, v.IsRegular)
  | [] => by rw [evalAll]; exact upholds_pure nofun
  | e :: r => by
    rw [evalAll]
    refine (upholds_eval e).bind fun v hv => (upholds_evalAll r).bind fun vs hvs => ?_
    exact upholds_pure (List.forall_mem_cons.mpr ⟨hv, hvs⟩)

end

/-! ### Every part -/

/-- `Reaches s e t p`: evaluating `e` from `s` comes to evaluating its part `p` from `t`. -/
inductive Reaches : Scratch → Expr → Scratch → Expr → Prop
  | here {s e} : Reaches s e s e
  | assign {s t rhs p} (name) (h : Reaches s rhs t p) : Reaches s (.assign name rhs) t p
  | neg {s t e p} (h : Reaches s e t p) : Reaches s (.neg e) t p
  | left {s t l p} (op r) (h : Reaches s l t p) : Reaches s (.binary op l r) t p
  | right {s s' t l r p v} (op) (hl : (eval l).run s = (.ok v, s')) (h : Reaches s' r t p) :
      Reaches s (.binary op l r) t p
  | argument {s s' t before a p vs} (name after)
      (hbefore : (evalAll before).run s = (.ok vs, s')) (h : Reaches s' a t p) :
      Reaches s (.call name (before ++ a :: after)) t p

theorem Reaches.isRegular {s t : Scratch} {e p : Expr} (h : Reaches s e t p)
    (hs : s.globals.IsRegular) : t.globals.IsRegular := by
  induction h with
  | here => exact hs
  | assign name _ ih | neg _ ih | left op r _ ih => exact ih hs
  | @right _ _ _ l _ _ _ op hl _ ih => exact ih (upholds_eval l _ hs _ _ hl).1
  | @argument _ _ _ before _ _ _ name after hbefore _ ih =>
    exact ih (upholds_evalAll before _ hs _ _ hbefore).1

/-- The value of a part. -/
theorem Reaches.value_isRegular {s t t' : Scratch} {e p : Expr} (h : Reaches s e t p)
    (hs : s.globals.IsRegular) (hv : (eval p).run t = (.ok v, t')) : v.IsRegular :=
  (upholds_eval p t (h.isRegular hs) _ _ hv).2 v rfl

end GuestRuntime.Mini
