import GuestRuntime.Proofs.Checked.Serving
import GuestRuntime.Proofs.Unwinding.Guards

/-!
The mini guest's calls statement by statement, in the order in which their statements stand: what is
asserted, what is looked up, what is assigned. A call may take the machine more than once, and every
assignment is seen by what comes after it, also by a panic:

        unprotect n:  changing ( assert; roots; counter )
        element v i:  looking ( object; element ), changing ( push )

Statement by statement a call does what it does at once. Main statement: `call_run`.
-/

namespace GuestRuntime.Unwinding

open Checked Mini TheGuest

section Definitions

variable {α : Type}

/-- The object at an address. -/
def objectAt (x : Obj) : Prog Value := do
  match (← peek).object? x with
  | some v => return v
  | none => panic (.dangling x)

/-- The element at a signed index. -/
def elementAt (l : List α) (i : Int) : Prog α :=
  match if i < 0 then none else l[i.toNat]? with
  | some a => return a
  | none => panic .outOfBounds

/-- A look at an object. -/
def inspect (x : Obj) (f : Value → Prog α) : Prog α := looking do f (← objectAt x)

/-- A call on an object of another kind. -/
def refuse (call wanted : String) : Prog α := panic (.wrongKind call wanted)

/-- A change that gives nothing. -/
def update (f : Machine → Machine) : Prog Unit := changing (poke f)

/-- A new object. -/
def alloc (v : Value) : Prog Obj := changing do
  poke fun m => m.push v
  return ⟨(← peek).heap.size - 1 + 1⟩

def boot (arguments : List Bytes) : Prog Int := changing do
  assert ((← peek).initialized = false) .bootedTwice
  poke fun m => { m with initialized := true }
  poke fun m => { m with boots := m.boots + 1 }
  poke fun m => { m with arguments := arguments.map Utf8.decodeLossy }
  poke fun m => m.starting .boot
  return 0

def unprotect (n : Int) : Prog Unit := changing do
  let held := (← peek).roots.length
  assert (n.toNat ≤ held) (.tooManyUnprotected held)
  let keep := held - n.toNat
  poke fun m => { m with roots := m.roots.drop (m.roots.length - keep) }
  poke fun m => { m with unprotects := m.unprotects + 1 }

def setString (v : Obj) (i : Int) (text : Bytes) : Prog Unit := changing do
  match (← peek).object? v with
  | some (.strings es) =>
    let _ ← elementAt es i
    poke fun m =>
      { m with heap := m.heap.set! (v.address - 1) (.strings (es.set i.toNat text)) }
  | _ => refuse "SET_STRING_ELT" "string vector"

/-- The source text of a string vector. -/
def sourceOf (text : Obj) : Prog (List Char) :=
  inspect text fun
    | .strings es => return Machine.sourceText es
    | _ => panic .parseOfNoText

/-- What a parse does to the roots. -/
def leak (x : Obj) : Prog Unit := changing do
  if (← peek).leaky then poke fun m => m.hold x

def parse (text : Obj) : Prog (Int × Obj) := do
  match Mini.parse (← sourceOf text) with
  | .ok exprs =>
    let x ← alloc (.exprs exprs)
    leak x
    return (parsedOk, x)
  | .error w => return (Machine.statusOf w, Machine.nil)

def tryEval (expr env : Obj) (flag : Int) : Prog (Int × Obj) := do
  match ← inspect expr fun v => return v with
  | .lang e =>
    match ← untrapped (outcomeIn env e) with
    | .ok v => return (0, ← alloc v)
    | .error why =>
      match why.panic? with
      | some p => panic p
      | none =>
        untrapped (writeConsole (Machine.errorText why) 1)
        update fun m => { m with lastError := Machine.errorText why }
        return (1, Machine.nil)
  | v => return (flag, ← alloc v)

def finish (fatal : Bool) : Prog Unit := changing do
  assert ((← peek).ended = none) .finishedTwice
  poke fun m => m.ending .finish
  poke fun m => { m with ended := some fatal }

/-- All entry points. -/
def call : (e : Entry) → Prog e.Answer
  | .isInitialized => looking do return (← peek).initialized
  | .boot arguments => boot arguments
  | .installCallbacks => changing do
    poke fun m => { m with wired := true }
    poke fun m => { m with wirings := m.wirings + 1 }
    poke fun m => m.starting .installCallbacks
  | .disableStackCheck => update fun m => m.starting .disableStackCheck
  | .setUpMainLoop => changing do
    poke fun m => { m with mainLoops := m.mainLoops + 1 }
    poke fun m => m.starting .setUpMainLoop
  | .allocStrings n => do
    assert (n.toNat * stringSize ≤ memoryTop) .capacityOverflow
    alloc (.strings (List.replicate n.toNat []))
  | .protect x => do
    update fun m => m.hold x
    return x
  | .unprotect n => unprotect n
  | .setString v i text => setString v i text
  | .parse text => parse text
  | .length x => inspect x fun v => return (v.length : Int)
  | .element v i => do
    alloc (.lang (← inspect v fun
      | .exprs es => elementAt es i
      | _ => refuse "VECTOR_ELT" "expression vector"))
  | .globalEnv => return Machine.globalEnv
  | .tryEval expr env flag => tryEval expr env flag
  | .kindOf x => inspect x fun v => return v.kind
  | .stringElement v i => do
    alloc (.chars (← inspect v fun
      | .strings es => elementAt es i
      | _ => refuse "STRING_ELT" "string vector"))
  | .chars x => inspect x fun
    | .chars b => return some b
    | _ => refuse "R_CHAR" "CHARSXP"
  | .bytes x => inspect x fun
    | .bytes b => return b
    | _ => refuse "RAW" "raw vector"
  | .integers x => inspect x fun
    | .ints l => return l
    | _ => refuse "INTEGER" "integer vector"
  | .logicals x => inspect x fun
    | .lgls l => return l
    | _ => refuse "LOGICAL" "logical vector"
  | .reals x => inspect x fun
    | .reals l => return l
    | _ => refuse "REAL" "real vector"
  | .isMissing _ => return false
  | .depth => looking do return some (← peek).roots.length
  | .runLast => update fun m => m.ending .runLast
  | .runFinalizers => update fun m => m.ending .runFinalizers
  | .killDevices => update fun m => m.ending .killDevices
  | .cleanTempDir => update fun m => m.ending .cleanTempDir
  | .collect => update fun m => m.ending .collect
  | .finish fatal => finish fatal

end Definitions

/-- What is done at once, in a cell that nobody has taken before or after. -/
def unwound {α : Type} : Except Panic α × World Machine → Except Trap α × World Cell
  | (r, w) => (r.mapError Trap.panic, free w)

section Lemmas

variable {α β : Type} {m : Machine} {h : Host} {x : Obj} {v : Value} {s : World Cell}

/-! ### What looks and what makes -/

theorem objectAt_run : (objectAt x).run s =
    match s.memory.machine.object? x with
    | some v => (.ok v, s)
    | none => (.error (.panic (.dangling x)), s) := by
  rw [objectAt, prog_bind]
  change (match s.memory.machine.object? x with
    | some v => (pure v : Prog Value)
    | none => panic (.dangling x)).run s = _
  split <;> rfl

theorem elementAt_run (l : List α) (i : Int) : (elementAt l i).run s =
    match if i < 0 then none else l[i.toNat]? with
    | some a => (.ok a, s)
    | none => (.error (.panic .outOfBounds), s) := by
  unfold elementAt
  split <;> rfl

variable {f : Value → Prog α} {r : Except Trap α}

theorem inspect_none (ho : m.object? x = none) :
    (inspect x f).run (free ⟨m, h⟩) = (.error (.panic (.dangling x)), free ⟨m, h⟩) := by
  have hx : (objectAt x).run (watched ⟨m, h⟩) =
      (.error (.panic (.dangling x)), watched ⟨m, h⟩) := by
    rw [objectAt_run]
    simp only [watched, ho]
  exact looking_run (prog_bind_error hx)

theorem inspect_some (ho : m.object? x = some v)
    (hf : (f v).run (watched ⟨m, h⟩) = (r, watched ⟨m, h⟩)) :
    (inspect x f).run (free ⟨m, h⟩) = (r, free ⟨m, h⟩) := by
  have hx : (objectAt x).run (watched ⟨m, h⟩) = (.ok v, watched ⟨m, h⟩) := by
    rw [objectAt_run]
    simp only [watched, ho]
  exact looking_run ((prog_bind_ok hx).trans hf)

/-- A call that only looks at one object. -/
theorem inspect_run (f : Value → Prog α) (k : Value → Machine.Step α)
    (hk : ∀ v, (k v m).memory = m ∧ (k v m).callbacks = [] ∧
      ∀ s, (f v).run s = ((k v m).outcome.mapError Trap.panic, s)) :
    (inspect x f).run (free ⟨m, h⟩) = unwound (within (Machine.withObject x k m) h) := by
  unfold Machine.withObject
  cases ho : m.object? x with
  | none => exact inspect_none ho
  | some v =>
    obtain ⟨hmem, hcs, hf⟩ := hk v
    rw [inspect_some ho (hf _), within, unwound, hmem, hcs]
    rfl

theorem update_run (f : Machine → Machine) :
    (update f).run (free ⟨m, h⟩) = (.ok (), free ⟨f m, h⟩) := changing_run rfl

/-- A new object has the next address. -/
theorem alloc_run (v : Value) :
    (alloc v).run (free ⟨m, h⟩) = (.ok m.next, free ⟨m.push v, h⟩) := by
  have hnext : (⟨(m.push v).heap.size - 1 + 1⟩ : Obj) = m.next := by
    rw [size_push]
    rfl
  rw [← hnext]
  exact changing_run rfl

/-- A call that makes an object of what it finds in another. -/
theorem alloc_bind_run (f : Value → Prog β) (g : β → Value) (k : Value → Machine.Step Obj)
    (hk : ∀ v, (∃ b, (∀ s, (f v).run s = (.ok b, s)) ∧ k v m = Machine.answerNew (g b) m) ∨
      ∃ p, (∀ s, (f v).run s = (.error (.panic p), s)) ∧ k v m = Machine.panic p m) :
    (inspect x f >>= fun b => alloc (g b)).run (free ⟨m, h⟩) =
      unwound (within (Machine.withObject x k m) h) := by
  unfold Machine.withObject
  cases ho : m.object? x with
  | none => exact prog_bind_error (inspect_none ho)
  | some v =>
    dsimp only
    rcases hk v with ⟨b, hf, hkv⟩ | ⟨p, hf, hkv⟩
    · rw [prog_bind_ok (inspect_some ho (hf _)), alloc_run, hkv]
      rfl
    · rw [prog_bind_error (inspect_some ho (hf _)), hkv]
      rfl

/-- An element becomes an object of its own. -/
theorem elementAt_or (l : List α) (i : Int) (g : α → Value) :
    (∃ b, (∀ s, (elementAt l i).run s = (.ok b, s)) ∧
      Machine.elementAt l i (fun b => Machine.answerNew (g b)) m = Machine.answerNew (g b) m) ∨
    ∃ p, (∀ s, (elementAt l i).run s = (.error (.panic p), s)) ∧
      Machine.elementAt l i (fun b => Machine.answerNew (g b)) m = Machine.panic p m := by
  unfold elementAt Machine.elementAt
  cases if i < 0 then none else l[i.toNat]? with
  | some b => exact .inl ⟨b, fun _ => rfl, rfl⟩
  | none => exact .inr ⟨_, fun _ => rfl, rfl⟩

/-! ### One call each -/

theorem boot_run (arguments : List Bytes) : (boot arguments).run (free ⟨m, h⟩) =
    unwound (within (Machine.call (.boot arguments) m) h) := by
  by_cases hi : m.initialized = true
  · have hcall : Machine.call (.boot arguments) m = Machine.panic .bootedTwice m := if_pos hi
    rw [hcall]
    exact changing_run (assert_bind_not (by simp [taken, hi]) _)
  · have hcall : Machine.call (.boot arguments) m = Machine.answer 0 _ := if_neg hi
    rw [hcall]
    exact changing_run (assert_bind (by simpa [taken] using hi) _)

theorem finish_run (fatal : Bool) : (finish fatal).run (free ⟨m, h⟩) =
    unwound (within (Machine.call (.finish fatal) m) h) := by
  by_cases hi : m.ended.isSome = true
  · have hcall : Machine.call (.finish fatal) m = Machine.panic .finishedTwice m := if_pos hi
    rw [hcall]
    exact changing_run (assert_bind_not (by simpa [taken, Option.isSome_iff_ne_none] using hi) _)
  · have hcall : Machine.call (.finish fatal) m = Machine.answer () _ := if_neg hi
    rw [hcall]
    exact changing_run (assert_bind (by simpa [taken] using hi) _)

theorem unprotect_run (n : Int) : (unprotect n).run (free ⟨m, h⟩) =
    unwound (within (Machine.call (.unprotect n) m) h) := by
  by_cases hn : n.toNat ≤ m.roots.length
  · have hcall : Machine.call (.unprotect n) m = Machine.answer () (m.release n.toNat) := if_pos hn
    have hkeep : m.release n.toNat = m.release (m.roots.length - (m.roots.length - n.toNat)) := by
      rw [Nat.sub_sub_self hn]
    rw [hcall, hkeep]
    exact changing_run (assert_bind hn _)
  · have hcall : Machine.call (.unprotect n) m =
        Machine.panic (.tooManyUnprotected m.roots.length) m := if_neg hn
    rw [hcall]
    exact changing_run (assert_bind_not hn _)

theorem setString_run (v : Obj) (i : Int) (text : Bytes) :
    (setString v i text).run (free ⟨m, h⟩) =
      unwound (within (Machine.setString v i text m) h) := by
  unfold Machine.setString
  split
  · next es ho =>
    by_cases hi : 0 ≤ i ∧ i < es.length
    · have hlt : i.toNat < es.length := by omega
      have helement : (elementAt es i).run (taken ⟨m, h⟩) =
          (.ok es[i.toNat], taken ⟨m, h⟩) := by
        rw [elementAt_run, if_neg (by omega), List.getElem?_eq_getElem hlt]
      rw [if_pos hi]
      refine changing_run ((peek_bind _).trans ?_)
      simp only [taken, ho]
      exact prog_bind_ok helement
    · have hnone : (if i < 0 then none else es[i.toNat]?) = none := by
        split
        · rfl
        · exact List.getElem?_eq_none (by omega)
      have helement : (elementAt es i).run (taken ⟨m, h⟩) =
          (.error (.panic .outOfBounds), taken ⟨m, h⟩) := by rw [elementAt_run, hnone]
      rw [if_neg hi]
      -- The index is looked at before anything is assigned.
      refine changing_run ((peek_bind _).trans ?_)
      simp only [taken, ho]
      exact prog_bind_error helement
  · next hne =>
    refine changing_run ((peek_bind _).trans ?_)
    split
    · next es ho => exact absurd ho (hne es)
    · rfl

theorem leak_run (x : Obj) : (leak x).run (free ⟨m, h⟩) = (.ok (), free ⟨m.leak x, h⟩) := by
  refine changing_run ((peek_bind _).trans ?_)
  unfold Machine.leak
  by_cases hl : m.leaky = true
  · rw [if_pos hl]
    exact congrFun (if_pos hl) _
  · rw [if_neg hl]
    exact congrFun (if_neg hl) _

theorem parse_run (text : Obj) : (parse text).run (free ⟨m, h⟩) =
    unwound (within (Machine.call (.parse text) m) h) := by
  rw [Machine.call]
  cases ho : m.object? text with
  | none =>
    rw [Machine.withObject_none ho]
    exact prog_bind_error (x := sourceOf text) (inspect_none ho)
  | some v =>
    rw [Machine.withObject_some ho]
    cases v with
    | strings es =>
      have hsource : (sourceOf text).run (free ⟨m, h⟩) =
          (.ok (Machine.sourceText es), free ⟨m, h⟩) := inspect_some ho rfl
      refine (prog_bind_ok hsource).trans ?_
      dsimp only [Machine.parseStrings]
      cases Mini.parse (Machine.sourceText es) with
      | ok exprs =>
        exact (prog_bind_ok (alloc_run _)).trans (prog_bind_ok (leak_run _))
      | error why => rfl
    | _ => exact prog_bind_error (x := sourceOf text) (inspect_some ho rfl)

theorem tryEval_run (expr env : Obj) (flag : Int) : (tryEval expr env flag).run (free ⟨m, h⟩) =
    unwound (within (Machine.call (.tryEval expr env flag) m) h) := by
  rw [Machine.call]
  cases ho : m.object? expr with
  | none =>
    rw [Machine.withObject_none ho]
    exact prog_bind_error (inspect_none ho)
  | some v =>
    rw [Machine.withObject_some ho]
    refine (prog_bind_ok (inspect_some ho rfl)).trans ?_
    cases v with
    | lang e =>
      -- The evaluation is not trapped, so the machine is not lost in it.
      refine (prog_bind_ok (untrapped_run (outcomeIn_run env e))).trans ?_
      dsimp only [Machine.tryEval]
      obtain ⟨why | v, s⟩ := m.outcomeIn env e
      · dsimp only [Machine.failing]
        cases why.panic? with
        | some p => rfl
        | none =>
          refine (prog_bind_ok (untrapped_run (writeConsole_eq _ _))).trans ?_
          refine (prog_bind_ok (update_run _)).trans ?_
          simp only [within, unwound, Machine.answer, Host.callbacks, List.foldl_append]
          rfl
      · exact prog_bind_ok (alloc_run _)
    | _ => exact prog_bind_ok (alloc_run _)

theorem allocStrings_run (n : Int) : (call (.allocStrings n)).run (free ⟨m, h⟩) =
    unwound (within (Machine.call (.allocStrings n) m) h) := by
  by_cases hn : n.toNat * stringSize ≤ memoryTop
  · rw [allocStrings_of_le hn]
    exact (assert_bind hn _).trans (alloc_run _)
  · rw [allocStrings_of_not_le hn]
    exact assert_bind_not hn _

/-- Statement by statement a call does what it does at once, and whether it answers or panics,
nobody has the machine any more. -/
theorem call_run (e : Entry) (w : World Machine) :
    (call e).run (free w) = unwound (World.call it e w) := by
  obtain ⟨m, h⟩ := w
  rw [call_within]
  cases e with
  | isInitialized | depth => exact looking_run rfl
  | boot arguments => exact boot_run arguments
  | installCallbacks | setUpMainLoop => exact changing_run rfl
  | allocStrings n => exact allocStrings_run n
  | protect x => exact prog_bind_ok (update_run _)
  | unprotect n => exact unprotect_run n
  | setString v i text => exact setString_run v i text
  | parse x => exact parse_run x
  | length x | kindOf x => exact inspect_run _ _ fun v => ⟨rfl, rfl, fun _ => rfl⟩
  | element v i =>
    refine alloc_bind_run _ _ _ fun v => ?_
    cases v with
    | exprs es => exact elementAt_or es i _
    | _ => exact .inr ⟨_, fun _ => rfl, rfl⟩
  | tryEval x env flag => exact tryEval_run x env flag
  | stringElement v i =>
    refine alloc_bind_run _ _ _ fun v => ?_
    cases v with
    | strings es => exact elementAt_or es i _
    | _ => exact .inr ⟨_, fun _ => rfl, rfl⟩
  | chars x | bytes x | integers x | logicals x | reals x =>
    exact inspect_run _ _ fun v => by cases v <;> exact ⟨rfl, rfl, fun _ => rfl⟩
  | globalEnv | isMissing x => rfl
  | disableStackCheck | runLast | runFinalizers | killDevices | cleanTempDir | collect =>
    exact update_run _
  | finish fatal => exact finish_run fatal

end Lemmas

end GuestRuntime.Unwinding
