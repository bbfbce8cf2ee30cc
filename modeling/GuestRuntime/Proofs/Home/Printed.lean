import GuestRuntime.Home
import GuestRuntime.Proofs.Text.Blank

/-!
The home in what an installation prints. Lines that are blank or a warning are passed, the first
that is neither is the home, and nothing behind it is looked at:

        WARNING: old \r\n   \n  /usr/lib/R  \n anything
        └──── passed ────────┘ └─ the line ─┘  └ unread

What a line ends with makes no difference. Main statement: `parse_readsFirst`.
-/

namespace GuestRuntime.Home

open Text

/-- A line that names no home: there is nothing on it, or a warning. -/
def IsPassed (line : List Char) : Prop := trim line = [] ∨ warning <+: trim line

/-- Whole lines that name no home, each with the end it has. -/
inductive Passes : List Char → Prop
  | nil : Passes []
  | line {l ending r} (hl : '\n' ∉ l) (hpassed : IsPassed l)
      (hending : ending = ['\n'] ∨ ending = ['\r', '\n']) (h : Passes r) :
      Passes (l ++ (ending ++ r))

/-- The first line of a text that names a home, what stands before it, and what stands behind it. -/
structure Chosen (printed before line behind : List Char) : Prop where
  split : printed = before ++ (line ++ behind)
  passes : Passes before
  whole : '\n' ∉ line
  real : ¬ IsPassed line
  ends : ∀ c ∈ behind.head?, c = '\n'

/-- A text without line ends and without blanks around it, which is neither empty nor a warning. -/
structure IsTidy (h : List Char) : Prop where
  nonempty : h ≠ []
  newline : '\n' ∉ h
  head : ∀ c ∈ h.head?, isBlank c = false
  last : ∀ c ∈ h.getLast?, isBlank c = false
  warning : ¬ warning <+: h

/-- From the first text to the second some line ends have got a carriage return. -/
inductive Reended : List Char → List Char → Prop
  | nil : Reended [] []
  | keep {s t} (c : Char) (h : Reended s t) : Reended (c :: s) (c :: t)
  | insert {s t} (h : Reended s t) : Reended ('\n' :: s) ('\r' :: '\n' :: t)

variable {l r s t h before line behind : List Char}

/-! ### One line -/

theorem isHome_trim_iff : isHome (trim l) = true ↔ ¬ IsPassed l := by
  simp [isHome, IsPassed, ← List.isPrefixOf_iff_prefix]

theorem isTidy_trim (hl : '\n' ∉ l) (hreal : ¬ IsPassed l) : IsTidy (trim l) where
  nonempty hnil := hreal (.inl hnil)
  newline hn := hl ((trim_sublist l).subset hn)
  head := head?_trim l
  last := getLast?_trim l
  warning hw := hreal (.inr hw)

theorem isPassed_concat {c : Char} (hc : isBlank c) : IsPassed (l ++ [c]) ↔ IsPassed l := by
  simp [IsPassed, trim_concat hc]

/-- The first line decides, or the text behind it does. -/
theorem ofPrinted_line (hl : '\n' ∉ l) :
    ofPrinted (l ++ '\n' :: r) = if isHome (trim l) then some (trim l) else ofPrinted r := by
  simp only [ofPrinted, lines_line hl, List.map_cons, trim_chomp, List.find?_cons]
  cases isHome (trim l) <;> rfl

theorem ofPrinted_last (hl : '\n' ∉ l) :
    ofPrinted l = if isHome (trim l) then some (trim l) else none := by
  by_cases hne : l = []
  · subst hne
    rfl
  · simp only [ofPrinted, lines_last hl hne, List.map_cons, List.map_nil, List.find?_cons]
    cases isHome (trim l) <;> rfl

theorem ofPrinted_passed (hl : '\n' ∉ l) (hpassed : IsPassed l) :
    ofPrinted (l ++ '\n' :: r) = ofPrinted r := by
  rw [ofPrinted_line hl, if_neg]
  exact fun hhome => isHome_trim_iff.mp hhome hpassed

theorem ofPrinted_real (hl : '\n' ∉ l) (hreal : ¬ IsPassed l) (hr : ∀ c ∈ r.head?, c = '\n') :
    ofPrinted (l ++ r) = some (trim l) := by
  have hhome : isHome (trim l) = true := isHome_trim_iff.mpr hreal
  cases r with
  | nil => rw [List.append_nil, ofPrinted_last hl, if_pos hhome]
  | cons c r =>
    obtain rfl : c = '\n' := hr c rfl
    rw [ofPrinted_line hl, if_pos hhome]

/-! ### Lines that are passed -/

theorem ofPrinted_passes (hpasses : Passes before) (s : List Char) :
    ofPrinted (before ++ s) = ofPrinted s := by
  induction hpasses with
  | nil => rfl
  | @line l ending r hl hpassed hending _ ih =>
    rcases hending with rfl | rfl
    · rw [List.append_assoc]
      exact (ofPrinted_passed hl hpassed).trans ih
    · have hl' : '\n' ∉ l ++ ['\r'] := by simp [hl]
      have hreturn : IsPassed (l ++ ['\r']) := (isPassed_concat (by decide)).mpr hpassed
      have hsplit : l ++ (['\r', '\n'] ++ r) ++ s = (l ++ ['\r']) ++ '\n' :: (r ++ s) := by simp
      rw [hsplit, ofPrinted_passed hl' hreturn, ih]

theorem Chosen.ofPrinted_eq (h : Chosen s before line behind) :
    ofPrinted s = some (trim line) := by
  rw [h.split, ofPrinted_passes h.passes, ofPrinted_real h.whole h.real h.ends]

/-- A text that names a home has a first line that does. -/
theorem exists_chosen (hs : ofPrinted s = some h) :
    ∃ before line behind, Chosen s before line behind ∧ h = trim line := by
  induction s using byLines with
  | last l hl =>
    rw [ofPrinted_last hl] at hs
    split at hs
    · rename_i hhome
      have hreal : ¬ IsPassed l := isHome_trim_iff.mp hhome
      exact ⟨[], l, [], ⟨by simp, .nil, hl, hreal, by simp⟩, (Option.some.inj hs).symm⟩
    · cases hs
  | line l r hl ih =>
    by_cases hpassed : IsPassed l
    · rw [ofPrinted_passed hl hpassed] at hs
      obtain ⟨before, line, behind, hchosen, rfl⟩ := ih hs
      have hbefore : Passes (l ++ (['\n'] ++ before)) := .line hl hpassed (.inl rfl) hchosen.passes
      refine ⟨_, line, behind, ⟨?_, hbefore, hchosen.whole, hchosen.real, hchosen.ends⟩, rfl⟩
      simp [hchosen.split]
    · have hr : ∀ c ∈ ('\n' :: r).head?, c = '\n' := by simp
      rw [ofPrinted_real hl hpassed hr] at hs
      exact ⟨[], l, '\n' :: r, ⟨by simp, .nil, hl, hpassed, hr⟩, (Option.some.inj hs).symm⟩

theorem ofPrinted_eq_none_iff : ofPrinted s = none ↔ ∀ line ∈ s.splitOn '\n', IsPassed line := by
  have hline {l : List Char} (hl : '\n' ∉ l) : ∀ c ∈ l, (c == '\n') = false := by
    intro c hc
    simp only [beq_eq_false_iff_ne]
    rintro rfl
    exact hl hc
  induction s using byLines with
  | last l hl =>
    rw [ofPrinted_last hl, List.splitOn, List.splitOnP_eq_singleton (hline hl)]
    simp [isHome_trim_iff]
  | line l r hl ih =>
    rw [List.splitOn, List.splitOnP_append_cons_of_forall_mem (hline hl) '\n' (by simp)]
    by_cases hpassed : IsPassed l
    · rw [ofPrinted_passed hl hpassed]
      refine ih.trans ?_
      simp [hpassed, List.splitOn]
    · rw [ofPrinted_real hl hpassed (by simp)]
      simp [hpassed]

/-! ### Line ends -/

theorem Reended.eq_of_notMem (h : Reended l t) (hl : '\n' ∉ l) : t = l := by
  induction h with
  | nil => rfl
  | keep c _ ih => simp_all
  | insert => simp at hl

/-- The first line keeps its end or gets a carriage return, and the others are changed alike. -/
theorem Reended.exists_line (hl : '\n' ∉ l) (h : Reended (l ++ '\n' :: r) t) :
    ∃ t', (t = l ++ '\n' :: t' ∨ t = (l ++ ['\r']) ++ '\n' :: t') ∧ Reended r t' := by
  induction l generalizing t with
  | nil =>
    cases h with
    | keep _ h => exact ⟨_, .inl rfl, h⟩
    | insert h => exact ⟨_, .inr rfl, h⟩
  | cons c l ih =>
    obtain ⟨hc, hl⟩ := not_or.mp (List.mem_cons.not.mp hl)
    cases h with
    | keep _ h =>
      obtain ⟨t', ht, hr⟩ := ih hl h
      refine ⟨t', ?_, hr⟩
      rcases ht with rfl | rfl
      · exact .inl rfl
      · exact .inr rfl
    | insert h => exact absurd rfl hc

theorem Reended.ofPrinted_eq (h : Reended s t) : ofPrinted t = ofPrinted s := by
  induction s using byLines generalizing t with
  | last l hl => rw [h.eq_of_notMem hl]
  | line l r hl ih =>
    obtain ⟨t', ht, hr⟩ := h.exists_line hl
    rcases ht with rfl | rfl
    · rw [ofPrinted_line hl, ofPrinted_line hl, ih hr]
    · have hl' : '\n' ∉ l ++ ['\r'] := by simp [hl]
      rw [ofPrinted_line hl', ofPrinted_line hl, trim_concat (by decide), ih hr]

/-! ### The home -/

/-- What is read of what was printed, and what makes no difference to it. -/
structure ReadsFirst (printed : String) : Prop where
  /-- Nothing, exactly if every line is blank or a warning. -/
  none_iff : parse printed = none ↔ ∀ line ∈ printed.toList.splitOn '\n', IsPassed line
  /-- Else the first line that is neither, without the blanks around it. -/
  some_iff : ∀ home, parse printed = some home ↔ ∃ before line behind,
    Chosen printed.toList before line behind ∧ home = ⟨Utf8.encodeChars (trim line)⟩
  tidy : ∀ home, parse printed = some home → ∃ h, home = ⟨Utf8.encodeChars h⟩ ∧ IsTidy h
  /-- Blank lines and warnings in front. -/
  passes : ∀ before, Passes before → parse (String.ofList before ++ printed) = parse printed
  /-- What lines end with. -/
  reended : ∀ t, Reended printed.toList t → parse (String.ofList t) = parse printed
  /-- Whatever stands behind the line. -/
  behind : ∀ before line behind behind', Chosen printed.toList before line behind →
    (∀ c ∈ behind'.head?, c = '\n') →
    parse (String.ofList (before ++ (line ++ behind'))) = parse printed

theorem parse_eq_none_iff {printed : String} :
    parse printed = none ↔ ofPrinted printed.toList = none := by
  simp [parse]

theorem parse_eq_some_iff {printed : String} {home : Path} : parse printed = some home ↔
    ∃ before line behind, Chosen printed.toList before line behind ∧
      home = ⟨Utf8.encodeChars (trim line)⟩ := by
  unfold parse
  constructor
  · intro hparse
    obtain ⟨h, hh, rfl⟩ := Option.map_eq_some_iff.mp hparse
    obtain ⟨before, line, behind, hchosen, rfl⟩ := exists_chosen hh
    exact ⟨before, line, behind, hchosen, rfl⟩
  · rintro ⟨before, line, behind, hchosen, rfl⟩
    rw [hchosen.ofPrinted_eq]
    rfl

/-- Whatever was printed, its first line that is neither blank nor a warning is read, and nothing
else of it makes a difference. -/
theorem parse_readsFirst (printed : String) : ReadsFirst printed where
  none_iff := parse_eq_none_iff.trans ofPrinted_eq_none_iff
  some_iff _ := parse_eq_some_iff
  tidy home hhome := by
    obtain ⟨before, line, behind, hchosen, rfl⟩ := parse_eq_some_iff.mp hhome
    exact ⟨trim line, rfl, isTidy_trim hchosen.whole hchosen.real⟩
  passes before hpasses := by simp [parse, ofPrinted_passes hpasses]
  reended t ht := by simp [parse, ht.ofPrinted_eq]
  behind before line behind behind' hchosen hends := by
    have hother : Chosen (before ++ (line ++ behind')) before line behind' :=
      ⟨rfl, hchosen.passes, hchosen.whole, hchosen.real, hends⟩
    simp [parse, hother.ofPrinted_eq, hchosen.ofPrinted_eq]

/-- A stray carriage return inside a line is part of it. -/
example : parse "\r\n  WARNING: old\r\n /opt\r/R \r\nx" = some (.ofString "/opt\r/R") := by decide

end GuestRuntime.Home
