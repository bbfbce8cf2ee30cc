import GuestRuntime.Proofs.Home.Printed
import GuestRuntime.Proofs.Text.Decoding

/-!
A home by three ways. One that is set, by the environment or by hand, is taken byte by byte; one
that an installation prints is read as text on its way:

        set       h ─────────────────────────────▶ h
        printed   h ──decode──▶ text ──encode──▶   h, if it is UTF-8

Main statements: `resolve_discovered` and `resolve_forgets`.
-/

namespace GuestRuntime.Home

open Text

/-- A path that can stand on a line by itself and is no warning. -/
structure FitsLine (h : Bytes) : Prop where
  nonempty : h ≠ []
  newline : 10 ∉ h
  head : ∀ c ∈ (Utf8.decodeChars h).head?, isBlank c = false
  last : ∀ c ∈ (Utf8.decodeChars h).getLast?, isBlank c = false
  warning : ¬ Utf8.encodeChars warning <+: h

/-- A printed line that names no home. -/
def IsPassedOver (line : Bytes) : Prop := 10 ∉ line ∧ IsPassed (Utf8.decodeChars line)

/-- The lines, each with its end. -/
def printLines (ls : List Bytes) : Bytes := ls.flatMap fun l => l ++ [10]

/-- A path that has been text. -/
def reread (h : Bytes) : Path := .ofString (Utf8.decodeLossy h)

variable {h rest : Bytes} {ls : List Bytes} {s : Settings} {status : ExitStatus}

theorem newline_notMem_decodeChars (hh : 10 ∉ h) : '\n' ∉ Utf8.decodeChars h :=
  fun hmem => hh (Utf8.mem_of_mem_decodeChars (by decide) hmem)

theorem decodeChars_newline (a b : Bytes) : Utf8.decodeChars (a ++ 10 :: b) =
    Utf8.decodeChars a ++ '\n' :: Utf8.decodeChars b :=
  Utf8.decodeChars_whole (by decide) a b

theorem isPlain_of_mem_warning : ∀ c ∈ warning, Utf8.IsPlain c := by
  have hall : warning.all fun c => decide (Utf8.IsPlain c) := by decide
  simpa only [List.all_eq_true, decide_eq_true_eq] using hall

theorem FitsLine.trim_eq (hh : FitsLine h) : trim (Utf8.decodeChars h) = Utf8.decodeChars h :=
  trim_eq_self hh.head hh.last

theorem FitsLine.not_isPassed (hh : FitsLine h) : ¬ IsPassed (Utf8.decodeChars h) := by
  rw [IsPassed, hh.trim_eq]
  rintro (hnil | hwarning)
  · exact Utf8.decodeChars_ne_nil hh.nonempty hnil
  · exact hh.warning (Utf8.isPrefix_of_decodeChars isPlain_of_mem_warning hwarning)

/-- Lines that are passed over are lines that are passed, once they are text. -/
theorem exists_passes (hls : ∀ l ∈ ls, IsPassedOver l) (b : Bytes) : ∃ before, Passes before ∧
    Utf8.decodeChars (printLines ls ++ b) = before ++ Utf8.decodeChars b := by
  induction ls with
  | nil => exact ⟨[], .nil, rfl⟩
  | cons l ls ih =>
    obtain ⟨hl, hpassed⟩ := hls l (List.mem_cons_self ..)
    obtain ⟨before, hbefore, hdecode⟩ := ih fun l' hl' => hls l' (List.mem_cons_of_mem _ hl')
    refine ⟨_, .line (newline_notMem_decodeChars hl) hpassed (.inl rfl) hbefore, ?_⟩
    have hsplit : printLines (l :: ls) ++ b = l ++ 10 :: (printLines ls ++ b) := by
      simp [printLines]
    rw [hsplit, decodeChars_newline, hdecode]
    simp

/-- What is found is the printed home, as text. -/
theorem parse_printed (hh : FitsLine h) (hls : ∀ l ∈ ls, IsPassedOver l) (rest : Bytes) :
    parse (Utf8.decodeLossy (printLines ls ++ (h ++ 10 :: rest))) = some (reread h) := by
  obtain ⟨before, hbefore, hdecode⟩ := exists_passes hls (h ++ 10 :: rest)
  have hchosen : Chosen (Utf8.decodeLossy (printLines ls ++ (h ++ 10 :: rest))).toList before
      (Utf8.decodeChars h) ('\n' :: Utf8.decodeChars rest) := by
    refine ⟨?_, hbefore, newline_notMem_decodeChars hh.newline, hh.not_isPassed, by simp⟩
    rw [Utf8.decodeLossy, String.toList_ofList, hdecode, decodeChars_newline]
  refine parse_eq_some_iff.mpr ⟨_, _, _, hchosen, ?_⟩
  rw [hh.trim_eq, reread, Path.ofString, Utf8.encode, Utf8.decodeLossy, String.toList_ofList]

/-- Reading a path as text keeps it exactly if it is UTF-8. -/
theorem reread_eq_iff : reread h = ⟨h⟩ ↔ ∃ t, h = Utf8.encode t := by
  constructor
  · intro hsame
    exact ⟨Utf8.decodeLossy h, (Path.mk.inj hsame).symm⟩
  · rintro ⟨t, rfl⟩
    rw [reread, Utf8.decodeLossy_encode, Path.ofString]

theorem resolve_withHome (s : Settings) (home : Path) (q : HomeQuery) :
    resolve (s.withHome home) q = .ok (home, .configuredHome home) := rfl

theorem resolve_ofEnvironment (hh : h ≠ []) (q : HomeQuery) :
    resolve (.ofEnvironment (some ⟨h⟩)) q = .ok (⟨h⟩, .configuredHome ⟨h⟩) := by
  have hfilter : (some ⟨h⟩ : Option Path).filter (fun p => !p.bytes.isEmpty) = some ⟨h⟩ := by
    simpa [Option.filter] using hh
  rw [resolve, Settings.ofEnvironment, hfilter]

/-- A home that is printed is found as the text it is read as, whatever stands before its line and
behind it. That is the home itself exactly if it is UTF-8, while a home that is set is always taken
as it is, with any query. -/
theorem resolve_discovered (hs : s.home = none) (hstatus : status.success) (hh : FitsLine h)
    (hls : ∀ l ∈ ls, IsPassedOver l) (rest : Bytes) :
    resolve s (.answered (printLines ls ++ (h ++ 10 :: rest)) status) =
        .ok (reread h, .discoveredHome (reread h)) ∧
      (reread h = ⟨h⟩ ↔ ∃ t, h = Utf8.encode t) ∧
      ∀ q, resolve (.ofEnvironment (some ⟨h⟩)) q = .ok (⟨h⟩, .configuredHome ⟨h⟩) ∧
        ∀ t : Settings, resolve (t.withHome ⟨h⟩) q = .ok (⟨h⟩, .configuredHome ⟨h⟩) := by
  refine ⟨?_, reread_eq_iff, fun q => ⟨resolve_ofEnvironment hh.nonempty q, ?_⟩⟩
  · rw [resolve, hs, ask, if_pos hstatus, parse_printed hh hls rest]
    rfl
  · exact fun t => resolve_withHome t ⟨h⟩ q

/-- The path `/x` and a byte that is no text. -/
def foreign : Bytes := [0x2F, 0x78, 0xFF]

theorem decodeChars_foreign : Utf8.decodeChars foreign = ['/', 'x', '\uFFFD'] := by decide

theorem fitsLine_foreign : FitsLine foreign where
  nonempty := by decide
  newline := by decide
  head := by
    rw [decodeChars_foreign]
    rintro c ⟨⟩
    decide
  last := by
    rw [decodeChars_foreign]
    rintro c ⟨⟩
    decide
  warning := by decide

/-- A warning and a blank line before the home, and text behind it. -/
theorem resolve_discovered_foreign :
    resolve {} (.answered (printLines [Utf8.encode "WARNING: old", Utf8.encode " \r"] ++
        (foreign ++ 10 :: Utf8.encode "/usr/lib/R")) (.exited 0)) =
      .ok (reread foreign, .discoveredHome (reread foreign)) := by
  refine (resolve_discovered rfl rfl fitsLine_foreign ?_ _).1
  simp only [List.forall_mem_cons, List.not_mem_nil, false_imp_iff, implies_true, and_true]
  exact ⟨⟨by decide, .inr (by decide)⟩, ⟨by decide, .inl (by decide)⟩⟩

/-- The home that is printed has its last byte replaced by three others; the same home in the
environment keeps it. -/
theorem resolve_forgets :
    FitsLine foreign ∧
      resolve {} (.answered (foreign ++ [10]) (.exited 0)) =
        .ok (⟨[0x2F, 0x78, 0xEF, 0xBF, 0xBD]⟩, .discoveredHome ⟨[0x2F, 0x78, 0xEF, 0xBF, 0xBD]⟩) ∧
      resolve (.ofEnvironment (some ⟨foreign⟩)) (.answered (foreign ++ [10]) (.exited 0)) =
        .ok (⟨foreign⟩, .configuredHome ⟨foreign⟩) ∧
      foreign ≠ [0x2F, 0x78, 0xEF, 0xBF, 0xBD] :=
  ⟨fitsLine_foreign, by decide, by decide, by decide⟩

end GuestRuntime.Home
