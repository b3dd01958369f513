import EvmScope.Proofs.SourceMap.Inheritance
import EvmScope.Proofs.Text.Decimal
import EvmScope.Text.Newline

set_option autoImplicit false

/-! # Fields that are dropped

An integer field with something in it that is no integer is dropped: the location keeps the value it has
in the entry before. Two readers look at every entry, one for its format and one for its integers, and an
entry is counted as malformed by the first alone. They disagree on stumps only (`IsStump`): the format lets
a field have a sign without digits, a line end behind the entry, and any number of digits, while an integer
needs a digit and has no more than the limit of them. So an entry that drops a field is counted or has a
stump in its place, and the counted ones are as many as those that drop a field, less the stumps in entries
that keep the format. -/

namespace EvmScope

/-! ## Stumps -/

/-- Text in the form of an integer that is none: a sign or nothing, then no digits or too many of them, and
    then a line end or nothing. -/
def IsStump (part : List Char) : Prop :=
  part ≠ [] ∧ ∃ sign ∈ [[], ['-']], ∃ digits, ∃ behind ∈ [[], [lineFeed]],
    part = sign ++ digits ++ behind ∧ (∀ c ∈ digits, isDecimalDigit c = true)
      ∧ (digits = [] ∨ Numeral.maxDigits < digits.length)

section Integers

variable {sign digits behind : List Char}

/-- Digits with a sign and a line end are read unless there are too many of them. -/
theorem read?_eq_none_iff_of_digits (hsign : sign ∈ [[], ['-']]) (hne : digits ≠ [])
    (hdigits : ∀ c ∈ digits, isDecimalDigit c = true) (hbehind : behind ∈ [[], [lineFeed]]) :
    Numeral.read? .decimal (String.ofList (sign ++ digits ++ behind)) = none
      ↔ Numeral.maxDigits < digits.length := by
  have hblank : ∀ c ∈ behind, isPlainBlank (Numeral.toPlain c) = true := by
    intro c hc
    simp only [List.mem_cons, List.not_mem_nil, or_false] at hbehind
    rcases hbehind with rfl | rfl
    · exact absurd hc List.not_mem_nil
    · rw [List.mem_singleton.1 hc]
      decide
  have hnegative : ∃ negative : Bool, sign = if negative then ['-'] else [] := by
    simp only [List.mem_cons, List.not_mem_nil, or_false] at hsign
    rcases hsign with rfl | rfl
    · exact ⟨false, rfl⟩
    · exact ⟨true, rfl⟩
  obtain ⟨negative, rfl⟩ := hnegative
  rw [Numeral.read?, Numeral.read_digitRun ⟨hne, hdigits, hblank⟩ negative]
  by_cases hlong : Numeral.maxDigits < digits.length
  · simp [hlong, Except.toOption]
  · simp [hlong, Except.toOption]

/-- Without digits nothing is read. -/
theorem read?_eq_none_of_no_digits (hsign : sign ∈ [[], ['-']]) (hbehind : behind ∈ [[], [lineFeed]]) :
    Numeral.read? .decimal (String.ofList (sign ++ behind)) = none := by
  simp only [List.mem_cons, List.not_mem_nil, or_false] at hsign hbehind
  rcases hsign with rfl | rfl
  · rcases hbehind with rfl | rfl
    · rfl
    · rfl
  · rcases hbehind with rfl | rfl
    · rfl
    · rfl

end Integers

theorem IsStump.read?_eq_none {part : List Char} (hstump : IsStump part) :
    Numeral.read? .decimal (String.ofList part) = none := by
  obtain ⟨-, sign, hsign, digits, behind, hbehind, rfl, hdigits, hwhy⟩ := hstump
  rcases hwhy with rfl | hlong
  · rw [List.append_nil]
    exact read?_eq_none_of_no_digits hsign hbehind
  · have hne : digits ≠ [] := by
      rintro rfl
      exact absurd hlong (Nat.not_lt_zero _)
    exact (read?_eq_none_iff_of_digits hsign hne hdigits hbehind).2 hlong

/-- Text in the form of an integer that is not read is a stump. -/
theorem isStump_of_read?_eq_none {sign digits behind : List Char} (hsign : sign ∈ [[], ['-']])
    (hdigits : ∀ c ∈ digits, isDecimalDigit c = true) (hbehind : behind ∈ [[], [lineFeed]])
    (hne : sign ++ digits ++ behind ≠ [])
    (hnone : Numeral.read? .decimal (String.ofList (sign ++ digits ++ behind)) = none) :
    IsStump (sign ++ digits ++ behind) := by
  refine ⟨hne, sign, hsign, digits, behind, hbehind, rfl, hdigits, ?_⟩
  by_cases hempty : digits = []
  · exact Or.inl hempty
  · exact Or.inr ((read?_eq_none_iff_of_digits hsign hempty hdigits hbehind).1 hnone)

/-! ## Fields of an entry -/

/-- Whether an entry drops a field: there is something in its place that is no integer. -/
def IntegerField.drops (field : IntegerField) (entry : List Char) : Bool :=
  ((entry.splitOn ':')[field.place]?).any (fun part =>
    !part.isEmpty && (Numeral.read? .decimal (String.ofList part)).isNone)

/-- The integer fields of a location. -/
def IntegerField.all : List IntegerField := [start, length, fileIndex, modifierDepth]

theorem IntegerField.mem_all (field : IntegerField) : field ∈ all := by
  cases field
  all_goals decide

namespace IntegerField

variable {field : IntegerField} {entry : List Char}

theorem drops_iff : field.drops entry = true ↔ ∃ part, (entry.splitOn ':')[field.place]? = some part
    ∧ part ≠ [] ∧ Numeral.read? .decimal (String.ofList part) = none := by
  simp [drops, Option.any_eq_true]

/-- A field that is dropped is not stated. -/
theorem stated?_of_drops (hdrops : field.drops entry = true) : field.stated? entry = none := by
  obtain ⟨part, hpart, hne, hnone⟩ := drops_iff.1 hdrops
  rw [stated?, hpart, Option.bind_some, if_neg hne, hnone]

theorem drops_of_isStump {part : List Char} (hpart : (entry.splitOn ':')[field.place]? = some part)
    (hstump : IsStump part) : field.drops entry = true :=
  drops_iff.2 ⟨part, hpart, hstump.1, hstump.read?_eq_none⟩

/-- An integer field that keeps the format has a sign or nothing, and then digits. -/
theorem exists_digits_of_fieldFits {part : List Char}
    (hfits : Mapping.fieldFits field.place part = true) :
    ∃ sign ∈ [[], ['-']], ∃ digits, part = sign ++ digits ∧ ∀ c ∈ digits, isDecimalDigit c = true := by
  have hplain : part.all isDecimalDigit = true →
      ∃ sign ∈ [[], ['-']], ∃ digits, part = sign ++ digits ∧ ∀ c ∈ digits, isDecimalDigit c = true :=
    fun hall => ⟨[], by decide, part, rfl, List.all_eq_true.1 hall⟩
  have hsigned : Mapping.isSignedDigits part = true →
      ∃ sign ∈ [[], ['-']], ∃ digits, part = sign ++ digits ∧ ∀ c ∈ digits, isDecimalDigit c = true := by
    intro hform
    unfold Mapping.isSignedDigits at hform
    split at hform
    · next rest => exact ⟨['-'], by decide, rest, rfl, List.all_eq_true.1 hform⟩
    · exact hplain hform
  cases field with
  | start => exact hsigned hfits
  | length => exact hsigned hfits
  | fileIndex => exact hsigned hfits
  | modifierDepth => exact hplain hfits

end IntegerField

namespace Mapping

/-- The parts of an entry that is not malformed keep the format, a line end behind the last one left
    out. -/
theorem fieldFits_of_not_malformed {entry : List Char} (hsound : isMalformed entry = false) {place : Nat}
    {part : List Char} (hpart : (entry.splitOn ':')[place]? = some part) (hne : part ≠ []) :
    ∃ kept, ∃ behind ∈ [[], [lineFeed]], part = kept ++ behind ∧ fieldFits place kept = true := by
  have hfits : ∀ trimmed : List Char, keepsFormat trimmed = true → ∀ kept,
      (trimmed.splitOn ':')[place]? = some kept → fieldFits place kept = true := by
    intro trimmed hkeeps kept hkept
    rw [keepsFormat, fieldsOf_eq, Bool.and_eq_true] at hkeeps
    exact List.all_eq_true.1 hkeeps.2 (kept, place) (List.mk_mem_zipIdx_iff_getElem?.2 hkept)
  have hempty : entry.isEmpty = false := by
    cases entry with
    | nil =>
      -- the only part of the empty entry is empty
      have hmem : part ∈ [[]] := List.mem_of_getElem? hpart
      exact absurd (List.mem_singleton.1 hmem) hne
    | cons c rest => rfl
  have hkeeps : keepsFormat (if entry.getLast? = some lineFeed then entry.dropLast else entry) = true := by
    simp only [isMalformed, hempty, Bool.not_false, Bool.true_and, Bool.not_eq_eq_eq_not] at hsound
    exact hsound
  by_cases hlast : entry.getLast? = some lineFeed
  · rw [if_pos hlast] at hkeeps
    have hcolon : lineFeed ≠ ':' := by decide
    obtain ⟨pieces, last, htrimmed, hwhole⟩ := splitOn_concat hcolon entry.dropLast
    rw [List.dropLast_append_getLast? lineFeed hlast] at hwhole
    rw [hwhole] at hpart
    by_cases hplace : place < pieces.length
    · rw [List.getElem?_append_left hplace] at hpart
      refine ⟨part, [], by decide, (List.append_nil part).symm, hfits _ hkeeps part ?_⟩
      rw [htrimmed, List.getElem?_append_left hplace, hpart]
    · obtain ⟨rfl, rfl⟩ : place = pieces.length ∧ last ++ [lineFeed] = part := by
        rw [List.getElem?_append_right (Nat.not_lt.1 hplace), List.getElem?_singleton] at hpart
        split at hpart
        · exact ⟨by omega, Option.some.inj hpart⟩
        · cases hpart
      refine ⟨last, [lineFeed], by decide, rfl, hfits _ hkeeps last ?_⟩
      rw [htrimmed, List.getElem?_concat_length]
  · rw [if_neg hlast] at hkeeps
    exact ⟨part, [], by decide, (List.append_nil part).symm, hfits _ hkeeps part hpart⟩

/-- Whether an entry drops a field. -/
def dropsField (entry : List Char) : Bool :=
  IntegerField.all.any (·.drops entry)

/-- Whether an entry drops a field and is not counted. -/
def dropsSilently (entry : List Char) : Bool :=
  dropsField entry && !isMalformed entry

theorem dropsField_iff {entry : List Char} :
    dropsField entry = true ↔ ∃ field : IntegerField, field.drops entry = true := by
  simp [dropsField, IntegerField.mem_all]

/-- **What goes uncounted.** An entry drops a field silently exactly if it keeps the format and has a stump
    in the place of a field. -/
theorem dropsSilently_iff {entry : List Char} :
    dropsSilently entry = true ↔ isMalformed entry = false ∧ ∃ (field : IntegerField) (part : List Char),
      (entry.splitOn ':')[field.place]? = some part ∧ IsStump part := by
  rw [dropsSilently, Bool.and_eq_true, Bool.not_eq_true', and_comm, dropsField_iff]
  refine and_congr_right (fun hsound => exists_congr (fun field => ?_))
  constructor
  · intro hdrops
    obtain ⟨part, hpart, hne, hnone⟩ := IntegerField.drops_iff.1 hdrops
    obtain ⟨kept, behind, hbehind, rfl, hfits⟩ := fieldFits_of_not_malformed hsound hpart hne
    obtain ⟨sign, hsign, digits, rfl, hdigits⟩ := IntegerField.exists_digits_of_fieldFits hfits
    exact ⟨_, hpart, isStump_of_read?_eq_none hsign hdigits hbehind hne hnone⟩
  · rintro ⟨part, hpart, hstump⟩
    exact IntegerField.drops_of_isStump hpart hstump

end Mapping

/-! ## Whole maps -/

namespace SourceMap

/-- What a map shows of the fields that the entries of its text drop. -/
structure ShowsDropped (pieces : List (List Char)) (map : SourceMap) : Prop where
  /-- A field that an entry drops is that of the location before. -/
  inherited : ∀ (k : Nat) (piece : List Char) (previous m : Mapping), pieces[k]? = some piece →
    (Mapping.root :: map.entries)[k]? = some previous → map.entries[k]? = some m →
    ∀ field : IntegerField, field.drops piece = true → field.of m = field.of previous
  /-- The entries that drop a field are counted but for the silent ones; the others that are counted break
      the format elsewhere. -/
  malformed_eq : map.malformed + pieces.countP Mapping.dropsSilently
    = pieces.countP Mapping.dropsField
      + pieces.countP (fun piece => Mapping.isMalformed piece && !Mapping.dropsField piece)
  /-- The silent ones keep the format and have a stump in the place of a field. -/
  silent_iff : ∀ piece ∈ pieces, Mapping.dropsSilently piece = true
    ↔ Mapping.isMalformed piece = false ∧ ∃ (field : IntegerField) (part : List Char),
      (piece.splitOn ':')[field.place]? = some part ∧ IsStump part
  /-- Without stumps in entries that keep the format, every entry that drops a field is counted. -/
  observable : (∀ piece ∈ pieces, Mapping.isMalformed piece = false → ∀ (field : IntegerField)
      (part : List Char), (piece.splitOn ':')[field.place]? = some part → ¬ IsStump part) →
    pieces.countP Mapping.dropsField ≤ map.malformed
      ∧ ((∃ piece ∈ pieces, Mapping.dropsField piece = true) → 0 < map.malformed)

theorem malformed_ofText (text : String) :
    (ofText (some text)).malformed = (entriesOf text).countP Mapping.isMalformed := by
  unfold ofText
  dsimp only
  split
  · next hempty =>
    subst hempty
    rfl
  · rfl

/-- The location of an entry follows the one before it. -/
theorem follow_of_entries {text : String} {k : Nat} {piece : List Char} {previous m : Mapping}
    (hpiece : (entriesOf text)[k]? = some piece)
    (hprevious : (Mapping.root :: (ofText (some text)).entries)[k]? = some previous)
    (hm : (ofText (some text)).entries[k]? = some m) : m = previous.follow piece := by
  by_cases htext : text = ""
  · subst htext
    cases hm
  · have hscan : Mapping.root :: (ofText (some text)).entries
        = (entriesOf text).scanl Mapping.follow Mapping.root := by
      rw [entries_ofText htext, ← entriesOf_eq]
      cases entriesOf text with
      | nil => simp
      | cons entry rest => rw [List.scanl_cons, List.tail_cons]
    have hnext : (Mapping.root :: (ofText (some text)).entries)[k + 1]? = some m := hm
    have hk : k < (entriesOf text).length := (List.getElem?_eq_some_iff.1 hpiece).1
    rw [hscan, List.getElem?_scanl, if_pos (Nat.le_of_lt hk)] at hprevious
    rw [hscan, List.getElem?_scanl, if_pos (Nat.succ_le_of_lt hk), List.take_add_one, hpiece,
      List.foldl_append, Option.some.inj hprevious] at hnext
    exact (Option.some.inj hnext).symm

/-- What has one property but not the other makes up the difference between the two counts. -/
theorem countP_add_countP_and_not {α : Type} (p q : α → Bool) (l : List α) :
    l.countP p + l.countP (fun a => q a && !p a) = l.countP q + l.countP (fun a => p a && !q a) := by
  induction l with
  | nil => rfl
  | cons a rest ih =>
    simp only [List.countP_cons]
    cases p a <;> cases q a <;> simp <;> omega

/-- **Dropped fields.** Of any text, the entries that have something unreadable in the place of an integer
    keep the integer of the entry before. They are counted as malformed but for those that keep the format,
    and in these it is a stump that is dropped: a sign alone, a line end, or digits beyond their limit. -/
theorem ofText_showsDropped (text : String) : ShowsDropped (entriesOf text) (ofText (some text)) := by
  have hcount := countP_add_countP_and_not Mapping.isMalformed Mapping.dropsField (entriesOf text)
  refine ⟨?_, ?_, fun piece _ => Mapping.dropsSilently_iff, ?_⟩
  · intro k piece previous m hpiece hprevious hm field hdrops
    rw [follow_of_entries hpiece hprevious hm, Mapping.of_follow,
      IntegerField.stated?_of_drops hdrops, Option.getD_none]
  · rw [malformed_ofText]
    exact hcount
  · intro hstumps
    have hsilent : (entriesOf text).countP (fun piece => Mapping.dropsField piece
        && !Mapping.isMalformed piece) = 0 := by
      rw [List.countP_eq_zero]
      intro piece hpiece hsilently
      obtain ⟨hsound, field, part, hpart, hstump⟩ := Mapping.dropsSilently_iff.1 hsilently
      exact hstumps piece hpiece hsound field part hpart hstump
    have hle : (entriesOf text).countP Mapping.dropsField ≤ (ofText (some text)).malformed := by
      rw [malformed_ofText]
      omega
    exact ⟨hle, fun hsome => Nat.lt_of_lt_of_le (List.countP_pos_iff.2 hsome) hle⟩

/-- Two entries drop a field and neither is counted: one states a sign alone for its start, the other ends
    with a line end in the place of its length. -/
theorem ofText_drops_uncounted : (entriesOf "1:2:3;-;:\n;4").countP Mapping.dropsField = 2
    ∧ (ofText (some "1:2:3;-;:\n;4")).malformed = 0
    ∧ (ofText (some "1:2:3;-;:\n;4")).entries = [⟨1, 2, 3, .regular, 0⟩, ⟨1, 2, 3, .regular, 0⟩,
      ⟨1, 2, 3, .regular, 0⟩, ⟨4, 2, 3, .regular, 0⟩] := by
  decide

end SourceMap

end EvmScope
