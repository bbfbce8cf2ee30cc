import GuestRuntime.Guest.Evaluate
import GuestRuntime.Proofs.Mini.Held
import GuestRuntime.Proofs.Mini.Marshal
import GuestRuntime.Proofs.Mini.Visible
import GuestRuntime.Proofs.Text.Sendable

/-!
Evaluation on the mini guest, path by path: what each way through an evaluation answers, how often
it parses and evaluates, and the world it leaves. The frame first, then its two stages, then the
whole. Main statements: `ends_close`, `ends_evaluation_none`, `ends_evaluation_value`,
`ends_evaluation_failure` and `panics_evaluation`.
-/

namespace GuestRuntime.Mini

open Dialogue TheGuest Machine

/-- The machine after a text was read as expressions, both rooted, and what a leak rooted. -/
def Machine.reading (m : Machine) (text : Bytes) (es : List Expr) : Machine :=
  let source := (m.push (.strings [text])).hold m.next
  ((source.push (.exprs es)).leak source.next).hold source.next

/-- The host when so many expressions were found in a code. -/
def counting (h : Host) (n : Int) (code : String) : Host :=
  if 1 < n then h.note (.extraExpressions n code) else h

variable {m : Machine} {h : Host} {code : String} {text : Bytes} {explain : Dialogue String}
  {env : Option Obj} {exprs : Obj} {e : Expr} {es : List Expr} {s : Scratch} {n : Nat}

/-- A frame whose body keeps the count of what it rooted leaves only what was leaked. -/
theorem ends_close {α : Type} {f : Frame α} {P : Except Fault α → Nat → World Machine → Prop}
    (hP : ∀ r n m₁ h₁ j, P r n ⟨m₁, h₁⟩ → P r n ⟨m₁.release j, h₁⟩)
    (hf : Frame.Ends it f 0 ⟨m, h⟩ fun r n xs w =>
      m.Held n (parses xs) w.memory ∧ P r (evaluations xs) w) :
    Ends it f.close ⟨m, h⟩ fun r xs w =>
      m.Held 0 (parses xs) w.memory ∧ P r (evaluations xs) w := by
  refine Frame.ends_close.mpr (hf.mono ?_)
  rintro r n xs ⟨m₁, h₁⟩ ⟨hm, hr⟩
  have hm : m.Held (n + 0) (parses xs) m₁ := hm
  by_cases hn : 0 < n
  · rw [if_pos hn]
    refine ⟨_, call_unprotect hm.le_length, ?_, ?_⟩
    · simpa [Exchange.isParsed] using hm.release
    · simpa [Exchange.isEvaluation] using hP _ _ _ _ n hr
  · rw [if_neg hn]
    obtain rfl : n = 0 := by omega
    exact ⟨hm, hr⟩

/-! ### From the text to its expressions -/

theorem held_reading : m.Held 2 1 (m.reading text es) :=
  (((((Held.refl m).push _).hold _).push _).leak _).hold _

theorem visible_reading {h₁ : Host} (hh : h₁.console = h.console) :
    visible ⟨m.reading text es, h₁⟩ = visible ⟨m, h⟩ := by
  simp [visible, Machine.reading, Machine.hold, Machine.push, hh]

theorem console_counting (k : Int) : (counting h k code).console = h.console := by
  unfold counting
  split <;> rfl

theorem object?_reading :
    (m.reading text es).object? (m.push (.strings [text])).next = some (.exprs es) := by
  rw [Machine.reading, object?_hold, object?_leak, Machine.hold]
  exact object?_push_next _ _

/-- A text is read as its expressions or refused, with two objects rooted either way. -/
theorem ends_sourceExpressions :
    Frame.Ends it (sourceExpressions code text) 0 ⟨m, h⟩ fun r n xs w =>
      n = 2 ∧ evaluations xs = 0 ∧ m.Held 2 (parses xs) w.memory ∧ visible w = visible ⟨m, h⟩ ∧
        match parse (Utf8.decodeChars text) with
        | .ok (e :: es) =>
          r = .ok (m.push (.strings [text])).next ∧ parses xs = 1 ∧
            w = ⟨m.reading text (e :: es), counting h (e :: es).length code⟩
        | _ => r = .error (.parse code) := by
  refine .call_bind call_allocString ?_
  refine .root_bind (call_protect _) ?_
  refine .call_bind (call_setString [] text) ?_
  have htext : ((m.push (.strings [text])).hold m.next).object? m.next = some (.strings [text]) :=
    object?_push_next _ _
  rcases hp : parse (Utf8.decodeChars text) with why | es
  · refine .call_bind (call_parse_error htext hp) ?_
    refine .root_bind (call_protect _) ?_
    rw [if_pos (statusOf_ne_parsedOk why)]
    have hheld : m.Held 2 0 (((m.push (.strings [text])).hold m.next).hold Machine.nil) :=
      (((Held.refl m).push _).hold _).hold _
    cases why with
    | incomplete | error => exact .fail_bind ⟨rfl, rfl, hheld, rfl, rfl⟩
  · refine .call_bind (call_parse_ok htext hp) ?_
    refine .root_bind (call_protect _) ?_
    rw [if_neg (by simp)]
    refine .call_bind (call_length object?_reading) ?_
    rcases es with _ | ⟨e, es⟩
    · rw [if_pos (show ((Value.exprs []).length : Int) = 0 from rfl)]
      exact .fail_bind ⟨rfl, rfl, held_reading, visible_reading rfl, rfl⟩
    · have hne : ¬ ((Value.exprs (e :: es)).length : Int) = 0 := by
        simp only [Value.length, List.length_cons]
        omega
      rw [if_neg hne]
      by_cases hn : 1 < ((Value.exprs (e :: es)).length : Int)
      · have hcount : counting h (e :: es).length code = h.note (.extraExpressions _ code) :=
          if_pos hn
        rw [if_pos hn]
        refine .remark_bind (Frame.ends_pure.mpr ⟨rfl, rfl, held_reading, ?_, rfl, rfl, ?_⟩)
        · exact visible_reading rfl
        · exact congrArg _ hcount.symm
      · have hcount : counting h (e :: es).length code = h := if_neg hn
        rw [if_neg hn]
        refine Frame.ends_pure.mpr ⟨rfl, rfl, held_reading, visible_reading rfl, rfl, rfl, ?_⟩
        exact congrArg _ hcount.symm

/-! ### From the expressions to a value -/

/-- The machine after an expression had a value, which is rooted. -/
def Machine.valued (m : Machine) (e : Expr) (v : Value) (s : Scratch) : Machine :=
  let lang := m.push (.lang e)
  ((((lang.leave s.globals m.lastError).push v).hold lang.next).marshaling v)

/-- The machine after an expression failed; the null object is rooted. -/
def Machine.failed (m : Machine) (e : Expr) (why : EvalError) (s : Scratch) : Machine :=
  ((m.push (.lang e)).leave s.globals (errorText why)).hold Machine.nil

/-- The environment that is meant. -/
def environment (env : Option Obj) : Obj := env.getD globalEnv

theorem held_valued (v : Value) : m.Held 1 0 (m.valued e v s) := by
  have hv := ((((Held.refl m).push (.lang e)).leave s.globals m.lastError).push v).hold
    (m.push (.lang e)).next
  unfold Machine.valued marshaling
  split
  · exact hv.push _
  · exact hv

theorem held_failed (why : EvalError) : m.Held 1 0 (m.failed e why s) :=
  (((Held.refl m).push _).leave _ _).hold _

theorem visible_valued (v : Value) (h₁ : Host) :
    visible ⟨m.valued e v s, h₁⟩ = visible ⟨m.leave s.globals m.lastError, h₁⟩ := by
  unfold Machine.valued marshaling
  split <;> rfl

/-- Where the value stands: behind the text, the expressions and the first of them. -/
def Machine.valueAt (m : Machine) : Obj := ⟨m.heap.size + 4⟩

theorem next_reading : ((m.reading text es).push (.lang e)).next = m.valueAt := by
  simp [Machine.reading, Machine.leak, Machine.hold, Machine.push, Machine.next, Machine.valueAt]
  split <;> simp

theorem object?_valued (v : Value) :
    (m.valued e v s).object? (m.push (.lang e)).next = some v := by
  have hv : ((((m.push (.lang e)).leave s.globals m.lastError).push v).hold
      (m.push (.lang e)).next).object? (m.push (.lang e)).next = some v := object?_push_next _ _
  unfold Machine.valued marshaling
  split
  · exact object?_push_of _ _ hv
  · exact hv

/-- The value, once the environment is known. -/
theorem ends_firstValue_environment {Q : Frame.Post HostValue Machine}
    (hQ : Frame.Ends it (firstValue explain code (some (environment env)) exprs) n ⟨m, h⟩
      fun r k xs w => ∀ ys, parses ys = 0 → evaluations ys = 0 → Q r k (ys ++ xs) w) :
    Frame.Ends it (firstValue explain code env exprs) n ⟨m, h⟩ Q := by
  cases env with
  | none =>
    refine .call_bind call_globalEnv (hQ.mono fun r k xs w hr => ?_)
    exact hr [_] rfl rfl
  | some x => exact hQ.mono fun r k xs w hr => hr [] rfl rfl

theorem ends_firstValue_ok {v : Value} (ho : m.object? exprs = some (.exprs (e :: es)))
    (he : m.outcomeIn (environment env) e = (.ok v, s)) :
    Frame.Ends it (firstValue explain code env exprs) n ⟨m, h⟩ fun r k xs w =>
      r = .ok (v.marshaled (m.push (.lang e)).next) ∧ k = n + 1 ∧ parses xs = 0 ∧
        evaluations xs = 1 ∧
        w = ⟨m.valued e v s, h.callbacks (s.printed.flatMap (m.printing 0))⟩ := by
  refine ends_firstValue_environment ?_
  refine .call_bind (call_element ho) ?_
  refine .call_bind (call_tryEval_ok 0 (object?_push_next _ _) he) ?_
  refine .root_bind (call_protect _) ?_
  rw [if_neg (by simp)]
  have hv : ((((m.push (.lang e)).leave s.globals m.lastError).push v).hold
      (m.push (.lang e)).next).object? (m.push (.lang e)).next = some v := object?_push_next _ _
  refine Frame.ends_inner.mpr ((ends_marshal hv).mono ?_)
  rintro r xs w ⟨rfl, hp, hv, rfl⟩ ys hyp hyv
  refine ⟨rfl, rfl, ?_, ?_, rfl⟩
  · simp [hp, hyp, Exchange.isParsed]
  · simp [hv, hyv, Exchange.isEvaluation]

/-- A failure is explained in the world it left. -/
theorem ends_firstValue_error {why : EvalError} {P : Post String Machine}
    (ho : m.object? exprs = some (.exprs (e :: es)))
    (he : m.outcomeIn (environment env) e = (.error why, s)) (hwhy : why.panic? = none)
    (hx : Ends it explain ⟨m.failed e why s,
      h.callbacks (s.printed.flatMap (m.printing 0) ++ m.printing 1 (errorText why))⟩ P) :
    Frame.Ends it (firstValue explain code env exprs) n ⟨m, h⟩ fun r k xs w =>
      ∃ message xs', r = .error (.runtime message code) ∧ k = n + 1 ∧ parses xs = parses xs' ∧
        evaluations xs = evaluations xs' + 1 ∧ P message xs' w := by
  refine ends_firstValue_environment ?_
  refine .call_bind (call_element ho) ?_
  refine .call_bind (call_tryEval_error 0 (object?_push_next _ _) he hwhy) ?_
  refine .root_bind (call_protect _) ?_
  rw [if_pos (by simp)]
  refine Frame.ends_bind.mpr (Frame.ends_inner.mpr (hx.mono fun message xs w hP => ?_))
  refine .fail_bind fun ys hyp hyv => ⟨message, xs, rfl, rfl, ?_, ?_, hP⟩
  · simp [hyp, Exchange.isParsed]
  · simp [hyv, Exchange.isEvaluation]

/-- The machine after the guest panicked at an expression, before anything is released. -/
def Machine.panicked (m : Machine) (e : Expr) (s : Scratch) : Machine :=
  (m.push (.lang e)).leave s.globals m.lastError

theorem panics_firstValue {why : EvalError} {p : Panic} {R : PanicPost Machine}
    (ho : m.object? exprs = some (.exprs (e :: es)))
    (he : m.outcomeIn (environment env) e = (.error why, s)) (hwhy : why.panic? = some p)
    (hR : ∀ xs, parses xs = 0 → evaluations xs = 0 → R p xs (unwind it (Dialogue.holding n)
      ⟨m.panicked e s, h.callbacks (s.printed.flatMap (m.printing 0))⟩)) :
    Frame.Panics it (firstValue explain code env exprs) n ⟨m, h⟩ R := by
  -- Without an environment the guest is asked for its own first.
  have hknown (ys : List Exchange) (hp : parses ys = 0) (hv : evaluations ys = 0) :
      Frame.Panics it (firstValue explain code (some (environment env)) exprs) n ⟨m, h⟩
        fun p xs w => R p (ys ++ xs) w := by
    refine Frame.panics_call_of (call_element ho) ?_
    refine Frame.panics_call (call_tryEval_panic 0 (object?_push_next _ _) he hwhy) ?_
    refine hR _ ?_ ?_
    · simp [hp, Exchange.isParsed]
    · simp [hv, Exchange.isEvaluation]
  cases env with
  | none => exact Frame.panics_call_of call_globalEnv (hknown [_] rfl rfl)
  | some x => exact hknown [] rfl rfl

/-! ### One evaluation -/

/-- The first expression of a code, if the code can be sent and read and has one. -/
def first? (code : String) : Option Expr :=
  if '\x00' ∈ code.toList then none
  else
    match parse code.toList with
    | .ok (e :: _) => some e
    | _ => none

theorem first?_eq_some (hf : first? code = some e) :
    '\x00' ∉ code.toList ∧ ∃ es, parse code.toList = .ok (e :: es) := by
  unfold first? at hf
  by_cases hc : '\x00' ∈ code.toList
  · simp [hc] at hf
  rw [if_neg hc] at hf
  rcases hp : parse code.toList with why | (_ | ⟨e', es⟩)
  · simp [hp] at hf
  · simp [hp] at hf
  · simp only [hp, Option.some.injEq] at hf
    exact ⟨hc, es, hf ▸ rfl⟩

/-- A code without a first expression is refused, and nothing is evaluated. -/
theorem ends_evaluation_none (hf : first? code = none) :
    Ends it (evaluation explain code env) ⟨m, h⟩ fun r xs w =>
      m.Held 0 (parses xs) w.memory ∧ r = .error (.parse code) ∧ evaluations xs = 0 ∧
        visible w = visible ⟨m, h⟩ := by
  simp only [evaluation, remark, Dialogue.bind_eq, Dialogue.bind, ends_note]
  by_cases hc : '\x00' ∈ code.toList
  · obtain ⟨i, hi⟩ := Terminated.ofText_of_mem hc
    simp only [hi, pure_eq, ends_done]
    exact ⟨Held.refl m, trivial, rfl, rfl⟩
  simp only [Terminated.ofText_of_notMem hc]
  refine ends_close (P := fun r n w => r = .error (.parse code) ∧ n = 0 ∧
    visible w = visible ⟨m, h⟩) (fun _ _ _ _ _ hr => hr) ?_
  refine Frame.ends_bind.mpr (ends_sourceExpressions.mono ?_)
  rintro r n xs w ⟨rfl, hxv, hheld, hvis, hr⟩
  rw [Utf8.decodeChars_encode] at hr
  rw [first?, if_neg hc] at hf
  rcases hp : parse code.toList with why | (_ | ⟨e, es⟩)
  · simp only [hp] at hr
    subst hr
    exact ⟨hheld, rfl, hxv, hvis⟩
  · simp only [hp] at hr
    subst hr
    exact ⟨hheld, rfl, hxv, hvis⟩
  · simp [hp] at hf

/-- A code with a first expression ends as the evaluation of that expression does. -/
theorem ends_evaluation_some {P : Except Fault HostValue → Nat → World Machine → Prop}
    (hP : ∀ r n m₁ h₁ j, P r n ⟨m₁, h₁⟩ → P r n ⟨m₁.release j, h₁⟩) (hf : first? code = some e)
    (hv : ∀ text es h₁, h₁.console = h.console →
      Frame.Ends it (firstValue explain code env (m.push (.strings [text])).next) 2
        ⟨m.reading text (e :: es), h₁⟩ fun r k xs w =>
          k = 3 ∧ (m.reading text (e :: es)).Held 1 (parses xs) w.memory ∧ P r (evaluations xs) w) :
    Ends it (evaluation explain code env) ⟨m, h⟩ fun r xs w =>
      m.Held 0 (parses xs) w.memory ∧ P r (evaluations xs) w := by
  obtain ⟨hc, es, hp⟩ := first?_eq_some hf
  simp only [evaluation, remark, Dialogue.bind_eq, Dialogue.bind, ends_note,
    Terminated.ofText_of_notMem hc]
  refine ends_close hP (Frame.ends_bind.mpr (ends_sourceExpressions.mono ?_))
  rintro r n xs w ⟨rfl, hxv, -, -, hr⟩
  simp only [Utf8.decodeChars_encode, hp] at hr
  obtain ⟨rfl, hxp, rfl⟩ := hr
  refine (hv (Utf8.encode code) es (counting (h.note (.evaluating code)) _ code)
    (console_counting _)).mono ?_
  rintro r k xs' w ⟨rfl, hm, hr⟩
  rw [parses_append, evaluations_append, hxp, hxv, Nat.zero_add]
  exact ⟨held_reading.trans hm, hr⟩

/-- A first expression at which the guest panics is not answered; what the evaluation has rooted by
then is released. -/
theorem panics_evaluation {why : EvalError} {p : Panic} (hf : first? code = some e)
    (he : m.outcomeIn (environment env) e = (.error why, s)) (hwhy : why.panic? = some p) :
    Panics it (evaluation explain code env) ⟨m, h⟩ fun q xs w =>
      q = p ∧ m.Held 0 (parses xs) w.memory ∧ evaluations xs = 0 ∧
        visible w = visible (afterValue ⟨m, h⟩ s) := by
  obtain ⟨hc, es, hp⟩ := first?_eq_some hf
  simp only [evaluation, remark, Dialogue.bind_eq, Dialogue.bind, panics_note,
    Terminated.ofText_of_notMem hc]
  refine Frame.panics_close (ends_sourceExpressions.panics_bind ?_ ?_)
  · rintro exprs k xs w ⟨rfl, hxv, -, -, hr⟩
    simp only [Utf8.decodeChars_encode, hp] at hr
    obtain ⟨hexprs, hxp, rfl⟩ := hr
    obtain rfl := Except.ok.inj hexprs
    have hvis : visible ⟨m.reading (Utf8.encode code) (e :: es),
        counting (h.note (.evaluating code)) (e :: es).length code⟩ = visible ⟨m, h⟩ :=
      visible_reading (console_counting _)
    have he' := (outcomeIn_of_visible hvis _ e).trans he
    refine panics_firstValue object?_reading he' hwhy fun ys hyp hyv => ?_
    have hheld : m.Held (2 + 0) 1 ((m.reading (Utf8.encode code) (e :: es)).panicked e s) :=
      (held_reading.push _).leave _ _
    have hunwind : unwind it (Dialogue.holding 2)
        ⟨(m.reading (Utf8.encode code) (e :: es)).panicked e s,
        (counting (h.note (.evaluating code)) (e :: es).length code).callbacks
          (s.printed.flatMap ((m.reading (Utf8.encode code) (e :: es)).printing 0))⟩ =
        ⟨((m.reading (Utf8.encode code) (e :: es)).panicked e s).release 2, _⟩ :=
      congrArg Prod.snd (call_unprotect hheld.le_length)
    rw [hunwind, parses_append, evaluations_append, hxp, hyp, hxv, hyv]
    exact ⟨rfl, hheld.release, rfl, visible_afterValue hvis s⟩
  · rintro f k xs w ⟨-, -, -, -, hr⟩
    simp only [Utf8.decodeChars_encode, hp] at hr
    cases hr.1

/-- A first expression that has a value is answered with what the host keeps of it. -/
theorem ends_evaluation_value {v : Value} (hf : first? code = some e)
    (he : m.outcomeIn (environment env) e = (.ok v, s)) :
    Ends it (evaluation explain code env) ⟨m, h⟩ fun r xs w =>
      m.Held 0 (parses xs) w.memory ∧ r = .ok (v.marshaled m.valueAt) ∧ evaluations xs = 1 ∧
        w.memory.object? m.valueAt = some v ∧ visible w = visible (afterValue ⟨m, h⟩ s) := by
  refine ends_evaluation_some (P := fun r n w => r = .ok (v.marshaled m.valueAt) ∧ n = 1 ∧
    w.memory.object? m.valueAt = some v ∧ visible w = visible (afterValue ⟨m, h⟩ s))
    (fun _ _ _ _ _ hr => hr) hf ?_
  intro text es h₁ hh
  have hvis : visible ⟨m.reading text (e :: es), h₁⟩ = visible ⟨m, h⟩ := visible_reading hh
  have he' := (outcomeIn_of_visible hvis _ e).trans he
  refine (ends_firstValue_ok object?_reading he').mono ?_
  rintro r k xs w ⟨rfl, rfl, hxp, hxv, rfl⟩
  rw [next_reading, hxp]
  refine ⟨rfl, held_valued v, rfl, hxv, ?_, ?_⟩
  · exact next_reading ▸ object?_valued v
  · exact (visible_valued v _).trans (visible_afterValue hvis s)

/-- A first expression that fails is answered with its explanation. -/
theorem ends_evaluation_failure {why : EvalError} {P : String → Nat → World Machine → Prop}
    (hP : ∀ t n m₁ h₁ j, P t n ⟨m₁, h₁⟩ → P t n ⟨m₁.release j, h₁⟩) (hf : first? code = some e)
    (he : m.outcomeIn (environment env) e = (.error why, s)) (hwhy : why.panic? = none)
    (hx : ∀ w, visible w = visible (afterFailure ⟨m, h⟩ why s) → Ends it explain w fun t xs w' =>
      w.memory.Held 0 (parses xs) w'.memory ∧ P t (evaluations xs) w') :
    Ends it (evaluation explain code env) ⟨m, h⟩ fun r xs w =>
      m.Held 0 (parses xs) w.memory ∧
        ∃ t n, r = .error (.runtime t code) ∧ evaluations xs = n + 1 ∧ P t n w := by
  refine ends_evaluation_some (P := fun r n' w =>
    ∃ t n, r = .error (.runtime t code) ∧ n' = n + 1 ∧ P t n w) ?_ hf ?_
  · rintro r n m₁ h₁ j ⟨t, n', rfl, rfl, ht⟩
    exact ⟨t, n', rfl, rfl, hP _ _ _ _ _ ht⟩
  intro text es h₁ hh
  have hvis : visible ⟨m.reading text (e :: es), h₁⟩ = visible ⟨m, h⟩ := visible_reading hh
  have he' := (outcomeIn_of_visible hvis _ e).trans he
  refine (ends_firstValue_error object?_reading he' hwhy
    (hx _ (visible_afterFailure hvis why s))).mono ?_
  rintro r k xs w ⟨t, xs', rfl, rfl, hxp, hxv, hm, ht⟩
  have hheld := (held_failed why).trans hm
  rw [Nat.zero_add] at hheld
  rw [hxp, hxv]
  exact ⟨rfl, hheld, t, _, rfl, rfl, ht⟩

end GuestRuntime.Mini
