import GuestRuntime.Proofs.Checked.Evaluating
import GuestRuntime.Proofs.Checked.Parsing
import GuestRuntime.Proofs.Mini.Heap

/-!
The mini guest's calls with their checks. A call takes the machine in its cell for as long as it
needs it and no longer: what it looks up it copies, and it gives the machine back before it makes an
object of it. Objects are found by the index below their address, counters are counted up, and what
a call refuses is its panic.

        element v i:  look, copy the i-th ──▶ change, one object more
        tryEval e:    look, copy ──▶ evaluate ──▶ change

With memory enough for the objects and room in the counters a call does what it says, or panics as
it says, and is trapped by nothing else. Main statement: `call_eq`.
-/

namespace GuestRuntime.Checked

open Mini TheGuest

section Definitions

variable {α : Type}

/-- The index of an object; the null address wraps to the last. -/
def indexOf (x : Obj) : Nat := if x.address = 0 then sizeTop else x.address - 1

/-- The object at an address. -/
def fetch (x : Obj) (m : Machine) : Step Value :=
  match m.heap[indexOf x]? with
  | some v => .ok v
  | none => .error (.panic (.dangling x))

/-- An element at a signed index; a negative one is larger than any length. -/
def element (l : List α) (i : Int) : Step α :=
  if i < 0 then .error (.panic .outOfBounds) else index l i.toNat

/-- A look at an object, by a step. -/
def inspect (x : Obj) (f : Value → Step α) : Act α := look fun m => do f (← fetch x m)

/-- A call on an object of another kind. -/
def refuse (call wanted : String) : Step α := .error (.panic (.wrongKind call wanted))

/-- A change of the machine that gives nothing. -/
def update (f : Machine → Machine) : Act Unit := change fun m => .ok ((), f m)

/-- A new object. -/
def alloc (v : Value) : Act Obj :=
  change fun m => do
    let heap := m.heap.push v
    let last ← sub heap.size 1
    return (⟨← add last 1⟩, { m with heap })

def setString (v : Obj) (i : Int) (text : Bytes) : Act Unit :=
  change fun m => do
    match m.heap[indexOf v]? with
    | some (.strings es) =>
      let _ ← element es i
      return ((), { m with heap := m.heap.set! (indexOf v) (.strings (es.set i.toNat text)) })
    | _ => refuse "SET_STRING_ELT" "string vector"

/-- The source text of a string vector. -/
def sourceOf (text : Obj) : Act (List Char) :=
  inspect text fun
    | .strings es => .ok (Machine.sourceText es)
    | _ => .error (.panic .parseOfNoText)

def parseStrings (text : Obj) : Act (Int × Obj) := do
  match ← Act.step (parse (← sourceOf text)).run with
  | .ok exprs =>
    let x ← alloc (.exprs exprs)
    update fun m => if m.leaky then { m with roots := x :: m.roots } else m
    return (parsedOk, x)
  | .error w => return (Machine.statusOf w, Machine.nil)

/-- The outcome of an expression in an environment. -/
def outcomeIn (env : Obj) (e : Expr) : Act (Except EvalError Value) :=
  if indexOf env = 0 then (eval e).run else return .error .notEnvironment

def tryEval (expr env : Obj) (flag : Int) : Act (Int × Obj) := do
  match ← inspect expr .ok with
  | .lang e =>
    match ← outcomeIn env e with
    | .ok v => return (0, ← alloc v)
    | .error why =>
      match why.panic? with
      | some p => Act.step (.error (.panic p))
      | none =>
        writeConsole (Machine.errorText why) 1
        update fun m => { m with lastError := Machine.errorText why }
        return (1, Machine.nil)
  | v => return (flag, ← alloc v)

/-- All entry points. -/
def call : (e : Entry) → Act e.Answer
  | .isInitialized => look fun m => .ok m.initialized
  | .boot arguments => change fun m =>
    if m.initialized then .error (.panic .bootedTwice)
    else do
      let arguments := arguments.map Utf8.decodeLossy
      let boots ← add m.boots 1
      return (0, { m with initialized := true, boots, arguments }.starting .boot)
  | .installCallbacks => change fun m => do
    let wirings ← add m.wirings 1
    return ((), { m with wired := true, wirings }.starting .installCallbacks)
  | .disableStackCheck => update fun m => m.starting .disableStackCheck
  | .setUpMainLoop => change fun m => do
    let mainLoops ← add m.mainLoops 1
    return ((), { m with mainLoops }.starting .setUpMainLoop)
  | .allocStrings n => do
    let n ← Act.step (reserve stringSize n.toNat)
    alloc (.strings (List.replicate n []))
  | .protect x => change fun m => .ok (x, { m with roots := x :: m.roots })
  | .unprotect n => change fun m =>
    if n.toNat ≤ m.roots.length then do
      let keep ← sub m.roots.length n.toNat
      let roots := m.roots.drop (m.roots.length - keep)
      return ((), { m with roots, unprotects := ← add m.unprotects 1 })
    else .error (.panic (.tooManyUnprotected m.roots.length))
  | .setString v i text => setString v i text
  | .parse text => parseStrings text
  | .length x => inspect x fun v => .ok (v.length : Int)
  | .element v i => do
    alloc (.lang (← inspect v fun
      | .exprs es => element es i
      | _ => refuse "VECTOR_ELT" "expression vector"))
  | .globalEnv => return Machine.globalEnv
  | .tryEval expr env flag => tryEval expr env flag
  | .kindOf x => inspect x fun v => .ok v.kind
  | .stringElement v i => do
    alloc (.chars (← inspect v fun
      | .strings es => element es i
      | _ => refuse "STRING_ELT" "string vector"))
  | .chars x => inspect x fun
    | .chars b => .ok (some b)
    | _ => refuse "R_CHAR" "CHARSXP"
  | .bytes x => inspect x fun
    | .bytes b => .ok b
    | _ => refuse "RAW" "raw vector"
  | .integers x => inspect x fun
    | .ints l => .ok l
    | _ => refuse "INTEGER" "integer vector"
  | .logicals x => inspect x fun
    | .lgls l => .ok l
    | _ => refuse "LOGICAL" "logical vector"
  | .reals x => inspect x fun
    | .reals l => .ok l
    | _ => refuse "REAL" "real vector"
  | .isMissing _ => return false
  | .depth => look fun m => .ok (some m.roots.length)
  | .runLast => update fun m => m.ending .runLast
  | .runFinalizers => update fun m => m.ending .runFinalizers
  | .killDevices => update fun m => m.ending .killDevices
  | .cleanTempDir => update fun m => m.ending .cleanTempDir
  | .collect => update fun m => m.ending .collect
  | .finish fatal => change fun m =>
    if m.ended.isSome then .error (.panic .finishedTwice)
    else .ok ((), { m with ended := some fatal }.ending .finish)

end Definitions

/-- The counter of a call has room, and the text it reads fits in memory. -/
def Ready (m : Machine) : Entry → Prop
  | .boot _ => m.boots < sizeTop
  | .installCallbacks => m.wirings < sizeTop
  | .setUpMainLoop => m.mainLoops < sizeTop
  | .unprotect _ => m.unprotects < sizeTop
  | .parse x => ∀ es, m.object? x = some (.strings es) →
      (Machine.sourceText es).length ≤ capacity
  | _ => True

/-- What a world without checks does, in one with them: a panic is a trap, and nothing else is. -/
def lifted {α : Type} : Except Panic α × World Machine → Step (α × World Cell)
  | (.ok a, w) => .ok (a, free w)
  | (.error p, _) => .error (.panic p)

/-- A reply in the process of a host. -/
def within {α : Type} (r : Reply Machine α) (h : Host) : Except Panic α × World Machine :=
  (r.outcome, ⟨r.memory, h.callbacks r.callbacks⟩)

section Lemmas

variable {α β : Type} {m : Machine} {h : Host} {x : Obj} {r : Reply Machine α}

theorem call_within (e : Entry) : World.call it e ⟨m, h⟩ = within (Machine.call e m) h := rfl

/-- No object stands at the index that the null address wraps to. -/
theorem heap_indexOf (hm : m.heap.size ≤ capacity) (x : Obj) :
    m.heap[indexOf x]? = m.object? x := by
  unfold indexOf Machine.object?
  split
  · exact Array.getElem?_eq_none (Nat.le_trans hm (by decide))
  · rfl

theorem fetch_of_some {v : Value} (hm : m.heap.size ≤ capacity) (ho : m.object? x = some v) :
    fetch x m = .ok v := by
  rw [fetch, heap_indexOf hm, ho]

theorem fetch_of_none (hm : m.heap.size ≤ capacity) (ho : m.object? x = none) :
    fetch x m = .error (.panic (.dangling x)) := by
  rw [fetch, heap_indexOf hm, ho]

/-- A look at one object, which gives something. -/
theorem inspect_eq {f : Value → Step α} {v : Value} {a : α} (hm : m.heap.size ≤ capacity)
    (ho : m.object? x = some v) (hf : f v = .ok a) :
    inspect x f (free ⟨m, h⟩) = .ok (a, free ⟨m, h⟩) :=
  look_eq (by rw [fetch_of_some hm ho, ok_bind, hf])

/-- A look at one object that is trapped, by the object or by what is done with it. -/
theorem inspect_error {f : Value → Step α} {t : Trap} (ht : fetch x m >>= f = .error t) :
    inspect x f (free ⟨m, h⟩) = .error t := look_error ht

theorem inspect_none {f : Value → Step α} (hm : m.heap.size ≤ capacity)
    (ho : m.object? x = none) :
    inspect x f (free ⟨m, h⟩) = .error (.panic (.dangling x)) :=
  inspect_error (by rw [fetch_of_none hm ho, error_bind])

theorem size_push (m : Machine) (v : Value) : (m.push v).heap.size = m.heap.size + 1 :=
  Array.size_push v

theorem lt_of_push {v : Value} (hm : (m.push v).heap.size ≤ capacity) : m.heap.size < capacity :=
  Nat.lt_of_succ_le (Nat.le_trans (Nat.le_of_eq (size_push m v).symm) hm)

/-- Objects are made, never taken away. -/
theorem call_grows (e : Entry) (m : Machine) :
    m.heap.size ≤ (Machine.call e m).memory.heap.size := (call_appends e m).content.size_le

/-! ### The shapes of calls -/

/-- A call that only changes the machine. -/
theorem change_within {g : Machine → Step (α × Machine)} (hc : r.callbacks = [])
    (hg : g m = match r.outcome with
      | .ok a => .ok (a, r.memory)
      | .error p => .error (.panic p)) :
    change g (free ⟨m, h⟩) = lifted (within r h) := by
  obtain ⟨outcome, memory, callbacks⟩ := r
  obtain rfl : callbacks = [] := hc
  cases outcome with
  | ok a => exact change_eq hg
  | error p => exact change_error hg

/-- A call that only changes the machine, unless it is refused. -/
theorem change_unless {p : Machine → Prop} [DecidablePred p] {why : Panic}
    {g : Machine → Step (α × Machine)} {a : α} {m' : Machine} (hg : ¬ p m → g m = .ok (a, m')) :
    change (fun m => if p m then .error (.panic why) else g m) (free ⟨m, h⟩) =
      lifted (within (if p m then Machine.panic why m else Machine.answer a m') h) := by
  by_cases hp : p m
  · rw [if_pos hp]
    exact change_within rfl (if_pos hp)
  · rw [if_neg hp]
    exact change_within rfl ((if_neg hp).trans (hg hp))

/-- A call that only looks at the machine. -/
theorem look_within {g : Machine → Step α} (hm : r.memory = m) (hc : r.callbacks = [])
    (hg : g m = r.outcome.mapError Trap.panic) :
    look g (free ⟨m, h⟩) = lifted (within r h) := by
  obtain ⟨outcome, memory, callbacks⟩ := r
  obtain rfl : memory = m := hm
  obtain rfl : callbacks = [] := hc
  cases outcome with
  | ok a => exact look_eq hg
  | error p => exact look_error hg

/-- A call that only looks at one object. -/
theorem inspect_within {f : Value → Step α} {k : Value → Machine.Step α}
    (hm : m.heap.size ≤ capacity)
    (hk : ∀ v, (k v m).memory = m ∧ (k v m).callbacks = [] ∧
      f v = (k v m).outcome.mapError Trap.panic) :
    inspect x f (free ⟨m, h⟩) = lifted (within (Machine.withObject x k m) h) := by
  unfold Machine.withObject
  cases ho : m.object? x with
  | none => exact look_within rfl rfl (by rw [fetch_of_none hm ho]; rfl)
  | some v =>
    obtain ⟨hmem, hcs, hf⟩ := hk v
    exact look_within hmem hcs (by rw [fetch_of_some hm ho, ok_bind, hf])

/-- A new object has the next address. -/
theorem alloc_run (v : Value) (hm : m.heap.size < capacity) :
    alloc v (free ⟨m, h⟩) = .ok (m.next, free ⟨m.push v, h⟩) := by
  refine change_eq ?_
  have hsub : sub (m.heap.push v).size 1 = .ok m.heap.size := by
    rw [Array.size_push]
    exact sub_eq (Nat.le_add_left 1 _)
  have hadd : add m.heap.size 1 = .ok (m.heap.size + 1) :=
    add_eq (add_capacity_le (Nat.le_of_lt hm) (by decide))
  simp only [hsub, hadd, ok_bind]
  rfl

/-- A call that makes an object of what it finds in another. -/
theorem alloc_within {f : Value → Step β} {k : Value → Machine.Step Obj} {g : β → Value}
    (hm : (Machine.withObject x k m).memory.heap.size ≤ capacity)
    (hk : ∀ v, (∃ b, f v = .ok b ∧ k v m = Machine.answerNew (g b) m) ∨
      ∃ p, f v = .error (.panic p) ∧ k v m = Machine.panic p m) :
    (inspect x f >>= fun b => alloc (g b)) (free ⟨m, h⟩) =
      lifted (within (Machine.withObject x k m) h) := by
  unfold Machine.withObject at hm ⊢
  cases ho : m.object? x with
  | none =>
    have hm : m.heap.size ≤ capacity := by
      rw [ho] at hm
      exact hm
    exact act_bind_error (inspect_none hm ho)
  | some v =>
    simp only [ho] at hm ⊢
    rcases hk v with ⟨b, hf, hkv⟩ | ⟨p, hf, hkv⟩
    · have hlt : m.heap.size < capacity := by
        rw [hkv] at hm
        exact lt_of_push hm
      rw [act_bind_eq (inspect_eq (Nat.le_of_lt hlt) ho hf), alloc_run _ hlt, hkv]
      rfl
    · have hm : m.heap.size ≤ capacity := by
        rw [hkv] at hm
        exact hm
      rw [hkv]
      exact act_bind_error (inspect_error (by rw [fetch_of_some hm ho, ok_bind, hf]))

/-! ### Single calls -/

theorem setString_within {i : Int} {text : Bytes} (hm : m.heap.size ≤ capacity) :
    setString x i text (free ⟨m, h⟩) = lifted (within (Machine.setString x i text m) h) := by
  have hx := heap_indexOf hm x
  unfold Machine.setString
  split
  · next es ho =>
    have hindex : indexOf x = x.address - 1 := by
      refine if_neg fun h0 => ?_
      simp [Machine.object?, h0] at ho
    have hget : m.heap[indexOf x]? = some (.strings es) := hx.trans ho
    split
    · next hi =>
      have hlt : i.toNat < es.length := by omega
      have helement : element es i = .ok es[i.toNat] := by
        rw [element, if_neg (by omega), index_eq_getElem hlt]
      refine change_within rfl ?_
      rw [hget]
      simp only [helement, ok_bind, hindex]
      rfl
    · next hi =>
      have helement : element es i = .error (.panic .outOfBounds) := by
        unfold element
        split
        · rfl
        · next hneg =>
          rw [index, List.getElem?_eq_none (by omega)]
      refine change_within rfl ?_
      rw [hget]
      simp only [helement]
      rfl
  · next hne =>
    refine change_within rfl ?_
    rw [hx]
    split
    · next es ho => exact absurd ho (hne es)
    · rfl

theorem unprotect_within {n : Int} (hu : m.unprotects < sizeTop) :
    call (.unprotect n) (free ⟨m, h⟩) = lifted (within (Machine.call (.unprotect n) m) h) := by
  unfold call Machine.call
  dsimp only
  by_cases hn : n.toNat ≤ m.roots.length
  · refine change_within (by rw [if_pos hn]; rfl) ?_
    rw [if_pos hn, if_pos hn, sub_eq hn, ok_bind, add_eq hu, Nat.sub_sub_self hn]
    rfl
  · refine change_within (by rw [if_neg hn]; rfl) ?_
    rw [if_neg hn, if_neg hn]
    rfl

theorem answered_run {α : Type} (x : Except Failure α) : (answered x).run = .ok x := by
  cases x <;> rfl

/-- A change that always gives nothing but the machine. -/
theorem update_run (f : Machine → Machine) : update f (free ⟨m, h⟩) = .ok ((), free ⟨f m, h⟩) :=
  change_eq rfl

/-- The text is copied before it is parsed, and its expressions are an object before the leak. -/
theorem parse_within (hm : (Machine.call (.parse x) m).memory.heap.size ≤ capacity)
    (hr : Ready m (.parse x)) :
    call (.parse x) (free ⟨m, h⟩) = lifted (within (Machine.call (.parse x) m) h) := by
  have hle : m.heap.size ≤ capacity := Nat.le_trans (call_grows _ m) hm
  rw [call, parseStrings]
  rw [Machine.call] at hm ⊢
  cases ho : m.object? x with
  | none =>
    rw [Machine.withObject_none ho]
    exact act_bind_error (x := sourceOf x) (inspect_none hle ho)
  | some v =>
    rw [Machine.withObject_some ho] at hm ⊢
    cases v with
    | strings es =>
      have hsource : sourceOf x (free ⟨m, h⟩) = .ok (Machine.sourceText es, free ⟨m, h⟩) :=
        inspect_eq hle ho rfl
      have hparse : (parse (Machine.sourceText es)).run =
          .ok (Mini.parse (Machine.sourceText es)) := by
        rw [parse_eq (hr es ho), answered_run]
      rw [act_bind_eq hsource, act_bind_eq (step_eq hparse)]
      dsimp only [Machine.parseStrings] at hm ⊢
      cases hp : Mini.parse (Machine.sourceText es) with
      | ok exprs =>
        have hlt : m.heap.size < capacity := by
          rw [hp] at hm
          exact lt_of_push (Machine.heap_leak (m.push (.exprs exprs)) m.next ▸ hm)
        dsimp only
        rw [act_bind_eq (alloc_run _ hlt), act_bind_eq (update_run _)]
        rfl
      | error why => rfl
    | _ =>
      exact act_bind_error (x := sourceOf x) (inspect_error (by rw [fetch_of_some hle ho, ok_bind]))

/-- The outcome of an expression, and what its evaluation leaves in the cell. -/
theorem outcomeIn_run (env : Obj) (e : Expr) :
    outcomeIn env e (free ⟨m, h⟩) =
      .ok ((m.outcomeIn env e).1, free (afterValue ⟨m, h⟩ (m.outcomeIn env e).2)) := by
  have hglobal : indexOf env = 0 ↔ env = Machine.globalEnv := by
    obtain ⟨a⟩ := env
    simp only [indexOf, Machine.globalEnv, Obj.mk.injEq, sizeTop]
    split <;> omega
  unfold outcomeIn Machine.outcomeIn
  by_cases henv : env = Machine.globalEnv
  · rw [if_pos (hglobal.mpr henv), if_pos henv]
    exact (eval_follows e ⟨m, h⟩ ⟨m.globals, m.lastError, m.mode, []⟩ ⟨rfl, rfl⟩).2
  · rw [if_neg (mt hglobal.mp henv), if_neg henv]
    rfl

/-- The expression is copied and evaluated; only then is its value an object, or its failure told,
unless it asked for too much. -/
theorem tryEval_within {env : Obj} {flag : Int}
    (hm : (Machine.call (.tryEval x env flag) m).memory.heap.size ≤ capacity) :
    call (.tryEval x env flag) (free ⟨m, h⟩) =
      lifted (within (Machine.call (.tryEval x env flag) m) h) := by
  have hle : m.heap.size ≤ capacity := Nat.le_trans (call_grows _ m) hm
  rw [call, tryEval]
  rw [Machine.call] at hm ⊢
  cases ho : m.object? x with
  | none =>
    rw [Machine.withObject_none ho]
    exact act_bind_error (inspect_none hle ho)
  | some v =>
    rw [Machine.withObject_some ho] at hm ⊢
    have hv : inspect x .ok (free ⟨m, h⟩) = .ok (v, free ⟨m, h⟩) := inspect_eq hle ho rfl
    rw [act_bind_eq hv]
    cases v with
    | lang e =>
      dsimp only [Machine.tryEval] at hm ⊢
      rw [act_bind_eq (outcomeIn_run env e)]
      generalize m.outcomeIn env e = o at hm ⊢
      obtain ⟨why | v, s⟩ := o
      · dsimp only [Machine.failing]
        cases why.panic? with
        | some p => rfl
        | none =>
          dsimp only
          rw [act_bind_eq (writeConsole_eq _ _), act_bind_eq (update_run _)]
          simp only [within, lifted, Machine.answer, Host.callbacks, List.foldl_append]
          rfl
      · have hlt : (m.leave s.globals m.lastError).heap.size < capacity := lt_of_push hm
        dsimp only [afterValue]
        rw [act_bind_eq (alloc_run _ hlt)]
        rfl
    | _ =>
      dsimp only at hm ⊢
      rw [act_bind_eq (alloc_run _ (lt_of_push hm))]
      rfl

/-- A vector of strings is made if it fits in memory. -/
theorem allocStrings_within {n : Int}
    (hm : (Machine.call (.allocStrings n) m).memory.heap.size ≤ capacity) :
    call (.allocStrings n) (free ⟨m, h⟩) =
      lifted (within (Machine.call (.allocStrings n) m) h) := by
  rw [call]
  by_cases hn : n.toNat * stringSize ≤ capacity
  · rw [allocStrings_of_le hn] at hm ⊢
    rw [act_bind_eq (step_eq (reserve_eq hn))]
    exact alloc_run _ (lt_of_push hm)
  · rw [allocStrings_of_not_le hn]
    exact act_bind_error (step_error (reserve_error hn))

/-- An element becomes an object of its own. -/
theorem element_or {l : List β} {i : Int} {g : β → Value} :
    (∃ b, element l i = .ok b ∧
      Machine.elementAt l i (fun b => Machine.answerNew (g b)) m = Machine.answerNew (g b) m) ∨
    ∃ p, element l i = .error (.panic p) ∧
      Machine.elementAt l i (fun b => Machine.answerNew (g b)) m = Machine.panic p m := by
  unfold element Machine.elementAt index
  split
  · exact .inr ⟨_, rfl, rfl⟩
  · cases l[i.toNat]? with
    | some b => exact .inl ⟨b, rfl, rfl⟩
    | none => exact .inr ⟨_, rfl, rfl⟩

/-- With memory enough for what it makes and room in its counter, a call does what it says, or
panics as it says, and nothing else stops it. -/
theorem call_eq (e : Entry) {w : World Machine} (hr : Ready w.memory e)
    (hm : (World.call it e w).2.memory.heap.size ≤ capacity) :
    call e (free w) = lifted (World.call it e w) := by
  obtain ⟨m, h⟩ := w
  have hm : (Machine.call e m).memory.heap.size ≤ capacity := hm
  have hle : m.heap.size ≤ capacity := Nat.le_trans (call_grows e m) hm
  rw [call_within]
  cases e with
  | isInitialized | depth => exact look_within rfl rfl rfl
  | boot arguments =>
    exact change_unless (p := fun m => m.initialized = true) fun _ => by rw [add_eq hr]; rfl
  | installCallbacks | setUpMainLoop => exact change_within rfl (by rw [add_eq hr]; rfl)
  | allocStrings n => exact allocStrings_within hm
  | protect x => exact change_within rfl rfl
  | unprotect n => exact unprotect_within hr
  | setString v i text => exact setString_within hle
  | parse x => exact parse_within hm hr
  | length x | kindOf x => exact inspect_within hle fun v => ⟨rfl, rfl, rfl⟩
  | element v i =>
    refine alloc_within hm fun v => ?_
    cases v with
    | exprs es => exact element_or
    | _ => exact .inr ⟨_, rfl, rfl⟩
  | tryEval x env flag => exact tryEval_within hm
  | stringElement v i =>
    refine alloc_within hm fun v => ?_
    cases v with
    | strings es => exact element_or
    | _ => exact .inr ⟨_, rfl, rfl⟩
  | chars x | bytes x | integers x | logicals x | reals x =>
    exact inspect_within hle fun v => by cases v <;> exact ⟨rfl, rfl, rfl⟩
  | globalEnv | isMissing x => rfl
  | disableStackCheck | runLast | runFinalizers | killDevices | cleanTempDir | collect =>
    exact update_run _
  | finish fatal => exact change_unless (p := fun m => m.ended.isSome = true) fun _ => rfl

end Lemmas

end GuestRuntime.Checked
