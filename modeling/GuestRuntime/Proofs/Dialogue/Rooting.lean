import Mathlib.Data.List.Induction
import GuestRuntime.Guest.Evaluate
import GuestRuntime.Proofs.Dialogue.Abides

/-!
Roots along an evaluation, with any guest that roots what it is asked to root. Every object is alive
when it is touched: it is rooted, or is an element of an object that is. What a frame roots it
releases at its very end by one call, the frame that explains a failure inside the one that failed:

        depth   own calls   ( own calls  release )   release   depth
                └ frame ──── └ its explanation ┘ ──────────┘

Nothing here depends on what the guest answers. Main statements: `abides_marshal`,
`abides_evaluation` and `abides_evaluate`.
-/

namespace GuestRuntime

/-- What a call is for, as far as the life of objects and of the guest goes. -/
inductive Entry.Purpose
  | look
  | root
  | release
  | evaluate
  | life
  deriving DecidableEq

def Entry.purpose : Entry → Entry.Purpose
  | .protect _ => .root
  | .unprotect _ => .release
  | .tryEval _ _ _ => .evaluate
  | .isInitialized | .boot _ | .installCallbacks | .disableStackCheck | .setUpMainLoop | .runLast
  | .runFinalizers | .killDevices | .cleanTempDir | .collect | .finish _ => .life
  | _ => .look

/-- The object that a call reads, writes or evaluates. -/
def Entry.touched? : Entry → Option Obj
  | .setString v _ _ => some v
  | .parse v => some v
  | .length x => some x
  | .element v _ => some v
  | .tryEval e _ _ => some e
  | .kindOf x => some x
  | .stringElement v _ => some v
  | .chars x => some x
  | .bytes x => some x
  | .integers x => some x
  | .logicals x => some x
  | .reals x => some x
  | _ => none

namespace Dialogue

/-- The roots after one more exchange. -/
def Exchange.roots (held : List Obj) (x : Exchange) : List Obj :=
  match x.entry with
  | .protect y => y :: held
  | .unprotect n => held.drop n.toNat
  | _ => held

/-- What these exchanges rooted and did not release, newest first. -/
def rooted (past : List Exchange) : List Obj := past.foldl Exchange.roots []

/-- How many objects these exchanges rooted. -/
def rootings (es : List Exchange) : Nat := es.countP fun x => x.entry.purpose = .root

/-- An object that cannot have been collected: it is rooted, or is an element of one that is. -/
def Alive (past : List Exchange) (x : Obj) : Prop :=
  x ∈ rooted past ∨
    ∃ v ∈ rooted past, ∃ i, ⟨.element v i, x⟩ ∈ past ∨ ⟨.stringElement v i, x⟩ ∈ past

/-- What an evaluation may call after these exchanges. -/
structure Permitted (past : List Exchange) (e : Entry) : Prop where
  alive : ∀ x, e.touched? = some x → Alive past x
  /-- A third expression is never evaluated. -/
  few : e.purpose = .evaluate → evaluations past < 2

/-- The exchanges of a frame: it was never opened, or ends with the release of what its own calls
rooted, and `Inside` describes what else it contains. -/
inductive IsFrame (Inside : List Exchange → Prop) : List Exchange → Prop
  | unopened : IsFrame Inside []
  | closed {own inner : List Exchange} (hown : ∀ x ∈ own, x.entry.purpose ≠ .release)
      (hroot : 0 < rootings own) (hin : Inside inner) :
      IsFrame Inside (own ++ inner ++ [⟨.unprotect (rootings own), ()⟩])

/-- A frame with nothing inside. -/
def IsPlainFrame : List Exchange → Prop := IsFrame (· = [])

/-- What a frame can contain: nothing, or the frame in which its failure is explained. -/
def IsExplanation (es : List Exchange) : Prop :=
  es = [] ∨ (∃ t, Runs diagnostic es t) ∧ IsPlainFrame es

/-- An evaluation's rule: a guest may answer anything, but roots what it is asked to root. -/
def rooting : Rule where
  permits := Permitted
  admits x :=
    match x.entry, x.answer with
    | .protect y, z => z = y
    | _, _ => True

variable {α β : Type} {past past' es : List Exchange} {x : Obj} {e : Entry} {j k l n : Nat}
  {code : String} {env : Option Obj}

/-! ### What is permitted -/

theorem permitted_free (ht : e.touched? = none) (he : (e.purpose != .evaluate) = true) :
    Permitted past e where
  alive _ hx := absurd (ht.symm.trans hx) (by simp)
  few h := absurd h (bne_iff_ne.mp he)

theorem permitted_look (ht : e.touched? = some x) (hx : Alive past x) (he : e.purpose = .look) :
    Permitted past e where
  alive y hy := Option.some.inj (ht.symm.trans hy) ▸ hx
  few h := by simp [he] at h

theorem permitted_tryEval {flag : Int} {y : Obj} (hx : Alive past x) (hn : evaluations past < 2) :
    Permitted past (.tryEval x y flag) where
  alive _ hy := Option.some.inj hy ▸ hx
  few _ := hn

/-! ### From one moment to a later one -/

/-- From `past` to `past'` nothing was released, `k` objects were rooted and `n` expressions
evaluated. -/
structure Grows (past : List Exchange) (k n : Nat) (past' : List Exchange) : Prop where
  own : ∃ es, past' = past ++ es ∧ (∀ x ∈ es, x.entry.purpose ≠ .release) ∧ rootings es = k ∧
    evaluations es = n

@[simp] theorem rootings_append (es es' : List Exchange) :
    rootings (es ++ es') = rootings es + rootings es' := List.countP_append

theorem isEvaluation_eq (x : Exchange) :
    x.isEvaluation = decide (x.entry.purpose = .evaluate) := by
  obtain ⟨e, a⟩ := x
  cases e <;> rfl

theorem Grows.refl (past : List Exchange) : Grows past 0 0 past :=
  ⟨[], (List.append_nil past).symm, by simp, rfl, rfl⟩

theorem Grows.trans {past'' : List Exchange} (h : Grows past j l past')
    (h' : Grows past' k n past'') : Grows past (j + k) (l + n) past'' := by
  obtain ⟨es, rfl, hes, rfl, rfl⟩ := h
  obtain ⟨es', rfl, hes', rfl, rfl⟩ := h'
  refine ⟨es ++ es', List.append_assoc _ _ _, fun x hx => ?_, rootings_append _ _,
    evaluations_append _ _⟩
  exact (List.mem_append.mp hx).elim (hes x) (hes' x)

theorem grows_look {y : e.Answer} (he : e.purpose = .look) : Grows past 0 0 (past ++ [⟨e, y⟩]) where
  own := ⟨[⟨e, y⟩], rfl, by simp [he], by simp [rootings, he], by simp [isEvaluation_eq, he]⟩

theorem grows_root (y : Obj) : Grows past 1 0 (past ++ [⟨.protect x, y⟩]) where
  own := ⟨[⟨.protect x, y⟩], rfl, by simp [Entry.purpose], rfl, rfl⟩

theorem grows_evaluate {y : Obj} {flag : Int} (r : Int × Obj) :
    Grows past 0 1 (past ++ [⟨.tryEval x y flag, r⟩]) where
  own := ⟨[⟨.tryEval x y flag, r⟩], rfl, by simp [Entry.purpose], rfl, rfl⟩

theorem Grows.evaluations_eq (h : Grows past k n past') :
    evaluations past' = evaluations past + n := by
  obtain ⟨es, rfl, -, -, rfl⟩ := h
  exact evaluations_append _ _

theorem rooted_append (past es : List Exchange) :
    rooted (past ++ es) = es.foldl Exchange.roots (rooted past) := List.foldl_append

/-- Without a release the roots only get more, by as many as were rooted. -/
theorem foldl_roots (hes : ∀ x ∈ es, x.entry.purpose ≠ .release) (held : List Obj) :
    ∃ new, es.foldl Exchange.roots held = new ++ held ∧ new.length = rootings es := by
  induction es generalizing held with
  | nil => exact ⟨[], rfl, rfl⟩
  | cons y es ih =>
    obtain ⟨new, hnew, hlen⟩ :=
      ih (fun z hz => hes z (List.mem_cons_of_mem _ hz)) (y.roots held)
    have hy := hes y List.mem_cons_self
    rw [List.foldl_cons, hnew]
    obtain ⟨e, a⟩ := y
    cases e with
    | protect x =>
      refine ⟨new ++ [x], by simp [Exchange.roots], ?_⟩
      simp [rootings, Entry.purpose, hlen]
    | unprotect n => exact absurd rfl hy
    | _ => exact ⟨new, rfl, by simp [rootings, Entry.purpose, hlen]⟩

/-- What is rooted stays rooted until something is released. -/
theorem Grows.mem_rooted (h : Grows past k n past') (hx : x ∈ rooted past) : x ∈ rooted past' := by
  obtain ⟨es, rfl, hes, -⟩ := h
  obtain ⟨new, hnew, -⟩ := foldl_roots hes (rooted past)
  rw [rooted_append, hnew]
  exact List.mem_append_right new hx

theorem mem_rooted_protect (past : List Exchange) (x y : Obj) :
    x ∈ rooted (past ++ [⟨.protect x, y⟩]) := by
  rw [rooted_append]
  exact List.mem_cons_self

/-! ### Marshaling -/

/-- The dialogue only looks at objects that are alive. -/
def Looks (d : Dialogue α) (past : List Exchange) : Prop :=
  d.Abides rooting past fun _ past' => Grows past 0 0 past'

theorem looks_done {a : α} : Looks (done a) past := Grows.refl past

theorem looks_ask {held : List Nat} {f : e.Answer → Dialogue α} (hp : Permitted past e)
    (he : e.purpose = .look) (hf : ∀ y, Looks (f y) (past ++ [⟨e, y⟩])) :
    Looks (ask e held f) past := by
  refine ⟨hp, fun y _ => (hf y).mono fun _ past' h => ?_⟩
  simpa using (grows_look he).trans h

theorem looks_bind {d : Dialogue α} {f : α → Dialogue β} (hd : Looks d past)
    (hf : ∀ a past', Grows past 0 0 past' → Looks (f a) past') : Looks (d.bind f) past := by
  refine abides_bind.mpr (hd.mono fun a past' h => (hf a past' h).mono fun _ past'' h' => ?_)
  simpa using h.trans h'

theorem looks_charsText (hx : Alive past x) : Looks (charsText x) past := by
  refine looks_ask (permitted_look rfl hx rfl) rfl fun b => ?_
  cases b with
  | none => exact looks_done
  | some b => exact looks_done

theorem looks_realText (y : Double) : Looks (realText y) past := by
  unfold realText
  split
  · refine looks_ask (permitted_free rfl rfl) rfl fun b => ?_
    cases b <;> exact looks_done
  · split <;> exact looks_done

/-- A look at a rooted object. -/
theorem looks_rooted {held : List Nat} {f : e.Answer → Dialogue α} (hx : x ∈ rooted past)
    (ht : e.touched? = some x) (he : e.purpose = .look)
    (hf : ∀ y past', Grows past 0 0 past' → Looks (f y) past') :
    Looks (ask e held f) past :=
  looks_ask (permitted_look ht (.inl hx) he) he fun _ => hf _ _ (grows_look he)

/-- A vector that is shown as text if it has one element only. -/
theorem looks_single {d : Dialogue HostValue} (hx : x ∈ rooted past)
    (hd : ∀ past', Grows past 0 0 past' → Looks d past') :
    Looks ((single x).bind fun one => if one = true then d else done (.object x)) past := by
  refine looks_bind (looks_rooted hx rfl rfl fun _ _ _ => looks_done) fun one past' h => ?_
  split
  · exact hd past' h
  · exact looks_done

/-- Marshaling a rooted object touches it, or an element of it. -/
theorem abides_marshal (hx : x ∈ rooted past) : Looks (marshal x) past := by
  simp only [marshal, call, bind_eq, bind, pure_eq]
  refine looks_rooted hx rfl rfl fun kind past₁ h₁ => ?_
  have hx₁ := h₁.mem_rooted hx
  split
  · exact looks_bind (looks_charsText (.inl hx₁)) fun _ _ _ => looks_done
  split
  · refine looks_rooted hx₁ rfl rfl fun m past₂ h₂ => ?_
    have hx₂ := h₂.mem_rooted hx₁
    split
    · refine looks_ask (permitted_look rfl (.inl hx₂) rfl) rfl fun y => ?_
      have hx₃ : x ∈ rooted (past₂ ++ [⟨.stringElement x 0, y⟩]) := (grows_look rfl).mem_rooted hx₂
      refine looks_bind (looks_charsText (.inr ⟨x, hx₃, 0, .inr ?_⟩)) fun _ _ _ => looks_done
      exact List.mem_append_right _ List.mem_cons_self
    · exact looks_done
  split
  · refine looks_rooted hx₁ rfl rfl fun m past₂ h₂ => ?_
    split
    · exact looks_done
    · exact looks_rooted (h₂.mem_rooted hx₁) rfl rfl fun _ _ _ => looks_done
  split
  · refine looks_single hx₁ fun past₂ h₂ => looks_rooted (h₂.mem_rooted hx₁) rfl rfl fun l _ _ => ?_
    exact looks_bind (looks_realText _) fun _ _ _ => looks_done
  split
  · exact looks_single hx₁ fun past₂ h₂ =>
      looks_rooted (h₂.mem_rooted hx₁) rfl rfl fun _ _ _ => looks_done
  split
  · exact looks_single hx₁ fun past₂ h₂ =>
      looks_rooted (h₂.mem_rooted hx₁) rfl rfl fun _ _ _ => looks_done
  · exact looks_done

/-! ### Frames -/

theorem abides_look_bind {f : e.Answer → Frame α} {Q : Frame.Goal α} (hp : Permitted past e)
    (he : e.purpose = .look)
    (hf : ∀ y past', Grows past 0 0 past' → (f y).Abides rooting n past' Q) :
    Frame.Abides rooting (Frame.call e >>= f) n past Q :=
  .call_bind hp fun y _ => hf y _ (grows_look he)

/-- Rooting is always permitted, and gives the object itself. -/
theorem abides_root_bind {f : Obj → Frame α} {Q : Frame.Goal α}
    (hf : ∀ past', Grows past 1 0 past' → x ∈ rooted past' →
      (f x).Abides rooting (n + 1) past' Q) :
    Frame.Abides rooting (Frame.root x >>= f) n past Q := by
  refine .root_bind (permitted_free rfl rfl) fun y hy => ?_
  rw [show y = x from hy]
  exact hf _ (grows_root x) (mem_rooted_protect past x x)

/-- A text is read with two objects rooted, and its expressions are one of them. -/
theorem abides_sourceExpressions {text : Bytes} :
    Frame.Abides rooting (sourceExpressions code text) n past fun r m past' =>
      m = n + 2 ∧ Grows past 2 0 past' ∧ ∀ exprs, r = .ok exprs → exprs ∈ rooted past' := by
  refine abides_look_bind (permitted_free rfl rfl) rfl fun source past₁ h₁ => ?_
  refine abides_root_bind fun past₂ h₂ hs => ?_
  refine abides_look_bind (permitted_look rfl (.inl hs) rfl) rfl fun _ past₃ h₃ => ?_
  have hs := h₃.mem_rooted hs
  refine abides_look_bind (permitted_look rfl (.inl hs) rfl) rfl fun (status, exprs) past₄ h₄ => ?_
  refine abides_root_bind fun past₅ h₅ he => ?_
  have h₅ : Grows past 2 0 past₅ := (((h₁.trans h₂).trans h₃).trans h₄).trans h₅
  by_cases hstatus : status = parsedOk
  · rw [if_neg (not_not_intro hstatus)]
    refine abides_look_bind (permitted_look rfl (.inl he) rfl) rfl fun count past₆ h₆ => ?_
    have he := h₆.mem_rooted he
    have h₆ := h₅.trans h₆
    have hread : ∀ x, (.ok exprs : Except Fault Obj) = .ok x → x ∈ rooted past₆ :=
      fun x hx => Except.ok.inj hx ▸ he
    by_cases hnone : count = 0
    · rw [if_pos hnone]
      exact .fail_bind ⟨rfl, h₆, nofun⟩
    rw [if_neg hnone]
    by_cases hmore : 1 < count
    · rw [if_pos hmore]
      exact .remark_bind (Frame.abides_pure ⟨rfl, h₆, hread⟩)
    · rw [if_neg hmore]
      exact Frame.abides_pure ⟨rfl, h₆, hread⟩
  · rw [if_pos hstatus]
    exact .fail_bind ⟨rfl, h₅, nofun⟩

/-- What a frame's body leaves for its closing: `k` own roots, and something inside at the end. -/
def Body (Inside : List Exchange → Prop) (past : List Exchange) (k : Nat)
    (past' : List Exchange) : Prop :=
  ∃ mid inner n, past' = mid ++ inner ∧ Grows past k n mid ∧ Inside inner

variable {Inside : List Exchange → Prop} {explain : Dialogue String} {exprs : Obj}

/-- The value of an expression is rooted and marshaled, its failure explained, whatever the
explanation says as long as it keeps to itself. -/
theorem abides_firstValue (he : exprs ∈ rooted past) (hn : evaluations past < 2) (h₀ : Inside [])
    (hx : ∀ past', evaluations past' = evaluations past + 1 →
      explain.Abides rooting past' fun _ past'' => ∃ es, past'' = past' ++ es ∧ Inside es) :
    Frame.Abides rooting (firstValue explain code env exprs) n past fun _ m past' =>
      m = n + 1 ∧ Body Inside past 1 past' := by
  -- Without an environment the guest is asked for its own first, which is one look more.
  suffices ∀ env past₁, Grows past 0 0 past₁ →
      Frame.Abides rooting (firstValue explain code (some env) exprs) n past₁ fun _ m past' =>
        m = n + 1 ∧ Body Inside past 1 past' by
    cases env with
    | some env => exact this env past (Grows.refl past)
    | none => exact abides_look_bind (permitted_free rfl rfl) rfl this
  intro env past₁ h₁
  have he := h₁.mem_rooted he
  refine .call_bind (permitted_look rfl (.inl he) rfl) fun expr _ => ?_
  have h₂ := h₁.trans (grows_look (e := .element exprs 0) (y := expr) rfl)
  -- The expression itself is not rooted: it is alive as an element of what is.
  have hn : evaluations (past₁ ++ [⟨.element exprs 0, expr⟩]) < 2 := by
    rw [h₂.evaluations_eq]
    exact hn
  have he : exprs ∈ rooted (past₁ ++ [⟨.element exprs 0, expr⟩]) := (grows_look rfl).mem_rooted he
  have halive : Alive (past₁ ++ [⟨.element exprs 0, expr⟩]) expr :=
    .inr ⟨exprs, he, 0, .inl (List.mem_append_right _ List.mem_cons_self)⟩
  refine .call_bind (permitted_tryEval halive hn) fun (failed, result) _ => ?_
  refine abides_root_bind fun past₄ h₄ hr => ?_
  have h₄ : Grows past 1 1 past₄ := (h₂.trans (grows_evaluate (failed, result))).trans h₄
  split
  · refine Frame.Abides.bind (P := fun r m past' => r.isOk ∧ m = n + 1 ∧ Body Inside past 1 past')
      (Frame.abides_inner ((hx past₄ h₄.evaluations_eq).mono ?_)) ?_ ?_
    · rintro t _ ⟨es, rfl, hes⟩
      exact ⟨rfl, rfl, past₄, es, 1, rfl, h₄, hes⟩
    · rintro t m past' ⟨-, hm, hb⟩
      exact .fail_bind ⟨hm, hb⟩
    · rintro f m past' ⟨hok, -⟩
      cases hok
  · refine Frame.abides_inner ((abides_marshal hr).mono fun v past₅ h₅ => ?_)
    exact ⟨rfl, past₅, [], 1, (List.append_nil _).symm, h₄.trans h₅, h₀⟩

/-- A frame is closed as the rule for frames says. -/
theorem abides_close {f : Frame α}
    (hf : f.Abides rooting 0 past fun _ m past' => 0 < m ∧ Body Inside past m past') :
    f.close.Abides rooting past fun _ past' => ∃ es, past' = past ++ es ∧ IsFrame Inside es := by
  refine Frame.abides_close (hf.mono ?_)
  rintro r m past' ⟨hm, mid, inner, n, rfl, ⟨own, rfl, hown, rfl, -⟩, hin⟩
  refine ⟨hm, permitted_free rfl rfl, own ++ inner ++ [⟨.unprotect (rootings own), ()⟩], ?_,
    .closed hown hm hin⟩
  simp only [List.append_assoc]

/-- An evaluation is a frame with its explanation inside. -/
theorem abides_evaluation (hn : evaluations past < 2) (h₀ : Inside [])
    (hx : ∀ past', evaluations past' = evaluations past + 1 →
      explain.Abides rooting past' fun _ past'' => ∃ es, past'' = past' ++ es ∧ Inside es) :
    (evaluation explain code env).Abides rooting past fun _ past' =>
      ∃ es, past' = past ++ es ∧ IsFrame Inside es := by
  unfold evaluation
  cases Terminated.ofText code with
  | error i => exact ⟨[], (List.append_nil past).symm, .unopened⟩
  | ok text =>
    refine abides_close (abides_sourceExpressions.bind ?_ ?_)
    · rintro exprs m past₁ ⟨rfl, h₁, he⟩
      have hcount : evaluations past₁ = evaluations past := h₁.evaluations_eq
      refine (abides_firstValue (he exprs rfl) (hcount ▸ hn) h₀ (hcount ▸ hx)).mono ?_
      rintro r m past' ⟨rfl, mid, inner, j, rfl, h₂, hin⟩
      exact ⟨by decide, mid, inner, _, rfl, h₁.trans h₂, hin⟩
    · rintro f m past₁ ⟨rfl, h₁, -⟩
      exact ⟨by decide, past₁, [], 0, (List.append_nil _).symm, h₁, h₀⟩

/-- An explanation is an evaluation that is not explained itself. -/
theorem abides_diagnostic (hn : evaluations past < 2) :
    diagnostic.Abides rooting past fun _ past' =>
      ∃ es, past' = past ++ es ∧ IsExplanation es := by
  have hplain : (evaluation (.done unknownMessage) diagnosticCode none).Abides rooting past
      fun _ past' => ∃ es, past' = past ++ es ∧ IsFrame (· = []) es := by
    apply abides_evaluation hn
    · rfl
    · exact fun past' _ => ⟨[], (List.append_nil past').symm, rfl⟩
  have hframe : diagnostic.Abides rooting past fun _ past' =>
      ∃ es, past' = past ++ es ∧ IsPlainFrame es := by
    unfold diagnostic
    refine abides_bind.mpr (hplain.mono fun r past' h => ?_)
    cases r with
    | error f => exact h
    | ok v =>
      cases v with
      | text t => exact h
      | object x => exact h
      | bytes b => exact h
  refine hframe.and_runs.mono ?_
  rintro t _ ⟨⟨es, rfl, hes⟩, es', heq, hruns⟩
  obtain rfl := List.append_cancel_left heq
  exact ⟨es, rfl, .inr ⟨⟨t, hruns⟩, hes⟩⟩

/-- The exchanges of an evaluation: one frame between two looks at the depth of the root stack. -/
def IsEvaluation (es : List Exchange) : Prop :=
  ∃ before after frame, es = ⟨.depth, before⟩ :: (frame ++ [⟨.depth, after⟩]) ∧
    IsFrame IsExplanation frame

theorem abides_evaluate (code : String) (env : Option Obj) :
    (evaluate code env).Abides rooting [] fun _ es => IsEvaluation es := by
  simp only [evaluate, call, Dialogue.bind_eq, Dialogue.bind]
  refine ⟨permitted_free rfl rfl, fun before _ => ?_⟩
  have heval : (evaluation diagnostic code env).Abides rooting ([] ++ [⟨.depth, before⟩])
      fun _ past' => ∃ frame, past' = [] ++ [⟨.depth, before⟩] ++ frame ∧
        IsFrame IsExplanation frame := by
    refine abides_evaluation Nat.zero_lt_two (.inl rfl) fun past' h => abides_diagnostic ?_
    exact h ▸ Nat.one_lt_two
  refine abides_bind.mpr (heval.mono ?_)
  rintro r _ ⟨frame, rfl, hframe⟩
  refine ⟨permitted_free rfl rfl, fun after _ => ?_⟩
  have hes : IsEvaluation ([] ++ [⟨.depth, before⟩] ++ frame ++ [⟨.depth, after⟩]) :=
    ⟨before, after, frame, rfl, hframe⟩
  cases before with
  | none => exact hes
  | some before =>
    cases after with
    | none => exact hes
    | some after =>
      simp only []
      split
      · exact hes
      · exact hes

/-! ### What frames leave -/

/-- A frame takes back what it rooted, whatever was rooted before, if what is inside does. -/
theorem IsFrame.foldl_roots (h : IsFrame Inside es)
    (hin : ∀ inner, Inside inner → ∀ held, inner.foldl Exchange.roots held = held)
    (held : List Obj) : es.foldl Exchange.roots held = held := by
  cases h with
  | unopened => rfl
  | closed hown hroot hinner =>
    obtain ⟨new, hnew, hlen⟩ := Dialogue.foldl_roots hown held
    rw [List.foldl_append, List.foldl_append, hnew, hin _ hinner]
    simp [Exchange.roots, ← hlen]

theorem IsExplanation.foldl_roots (h : IsExplanation es) (held : List Obj) :
    es.foldl Exchange.roots held = held := by
  rcases h with rfl | ⟨-, h⟩
  · rfl
  · refine h.foldl_roots ?_ held
    rintro _ rfl held
    rfl

/-- After an evaluation nothing is rooted any more. -/
theorem IsEvaluation.rooted_eq (h : IsEvaluation es) : rooted es = [] := by
  obtain ⟨before, after, frame, rfl, hframe⟩ := h
  have hf : frame.foldl Exchange.roots [] = [] :=
    hframe.foldl_roots (fun _ => IsExplanation.foldl_roots) []
  simp [rooted, Exchange.roots, hf]

/-- Where no third expression may be evaluated, two are evaluated at most. -/
theorem evaluations_le_two
    (h : ∀ past x rest, es = past ++ x :: rest → Permitted past x.entry) : evaluations es ≤ 2 := by
  induction es using List.reverseRecOn with
  | nil => exact Nat.zero_le 2
  | append_singleton es x ih =>
    have hes : evaluations es ≤ 2 := ih fun past y rest hy => h past y (rest ++ [x]) (by simp [hy])
    have hx := (h es x [] rfl).few
    rw [evaluations_append, evaluations_cons, isEvaluation_eq]
    by_cases he : x.entry.purpose = .evaluate
    · have := hx he
      simp [he]
      omega
    · simp [he, hes]

end Dialogue
end GuestRuntime
