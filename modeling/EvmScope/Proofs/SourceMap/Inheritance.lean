import EvmScope.Proofs.Text.Split
import EvmScope.SourceMap.Mapping

set_option autoImplicit false

/-! # The last explicit value wins

An entry of a source map states some of its fields and leaves the others to the entries before. `IsLast`
says what a field then is, by a search backwards: the value stated by the nearest entry that states one,
and the root value if there is none. Reading is a fold that carries whole locations, and the two agree
since the fold falls apart into one fold for each field, each of which sees nothing but what is stated
for its own field. -/

namespace EvmScope

/-! ## Searching backwards -/

section Last

variable {α β : Type} {explicit : α → Option β} {pieces : List α} {k : Nat} {default : β}

/-- A value is the last explicit one up to a place: it is that of the greatest place at which there is
    one, or the default one if there is none. -/
def IsLast (explicit : α → Option β) (pieces : List α) (k : Nat) (default value : β) : Prop :=
  (∃ j ≤ k, pieces[j]?.bind explicit = some value
    ∧ ∀ i, j < i → i ≤ k → pieces[i]?.bind explicit = none)
  ∨ (value = default ∧ ∀ i ≤ k, pieces[i]?.bind explicit = none)

/-- A place without an explicit value keeps the last one. -/
theorem IsLast.step {value : β} (hlast : IsLast explicit pieces k default value)
    (hnone : pieces[k + 1]?.bind explicit = none) :
    IsLast explicit pieces (k + 1) default value := by
  rcases hlast with ⟨j, hj, hvalue, hlater⟩ | ⟨hvalue, hbefore⟩
  · refine Or.inl ⟨j, Nat.le_succ_of_le hj, hvalue, fun i hji hik => ?_⟩
    rcases Nat.lt_or_eq_of_le hik with hlt | rfl
    · exact hlater i hji (Nat.le_of_lt_succ hlt)
    · exact hnone
  · refine Or.inr ⟨hvalue, fun i hik => ?_⟩
    rcases Nat.lt_or_eq_of_le hik with hlt | rfl
    · exact hbefore i (Nat.le_of_lt_succ hlt)
    · exact hnone

/-- An explicit value is the last one at its own place. -/
theorem IsLast.of_explicit {value : β} (hvalue : pieces[k]?.bind explicit = some value) :
    IsLast explicit pieces k default value :=
  Or.inl ⟨k, Nat.le_refl k, hvalue, fun _ hlt hle => absurd hle (Nat.not_le.2 hlt)⟩

/-- The last explicit value depends on the explicit values up to its place alone. -/
theorem IsLast.eq_of_agree {others : List α} {value other : β}
    (hvalue : IsLast explicit pieces k default value) (hother : IsLast explicit others k default other)
    (hagree : ∀ i ≤ k, pieces[i]?.bind explicit = others[i]?.bind explicit) : value = other := by
  rcases hvalue with ⟨j, hj, hat, hlater⟩ | ⟨hroot, hnone⟩
  · rcases hother with ⟨j', hj', hat', hlater'⟩ | ⟨hroot', hnone'⟩
    · -- neither place is behind the other one
      rcases Nat.lt_trichotomy j j' with hlt | rfl | hlt
      · have hgone := hlater j' hlt hj'
        rw [hagree j' hj', hat'] at hgone
        cases hgone
      · rw [hagree j hj, hat'] at hat
        exact (Option.some.inj hat).symm
      · have hgone := hlater' j hlt hj
        rw [← hagree j hj, hat] at hgone
        cases hgone
    · rw [hagree j hj, hnone' j hj] at hat
      cases hat
  · rcases hother with ⟨j', hj', hat', -⟩ | ⟨hroot', -⟩
    · rw [← hagree j' hj', hnone j' hj'] at hat'
      cases hat'
    · rw [hroot, hroot']

/-- A fold that takes every explicit value over ends with the last one. -/
theorem isLast_foldl (hk : k < pieces.length) :
    IsLast explicit pieces k default
      ((pieces.take (k + 1)).foldl (fun value piece => (explicit piece).getD value) default) := by
  induction k with
  | zero =>
    obtain ⟨piece, rest, rfl⟩ := List.exists_cons_of_length_pos hk
    cases hexplicit : explicit piece with
    | none => exact Or.inr ⟨by simp [hexplicit], fun i hi => by simp [Nat.le_zero.1 hi, hexplicit]⟩
    | some value =>
      refine IsLast.of_explicit ?_
      simp [hexplicit]
  | succ k ih =>
    have hbefore := ih (Nat.lt_of_succ_lt hk)
    rw [List.take_succ_eq_append_getElem hk, List.foldl_append, List.foldl_cons, List.foldl_nil]
    have hpiece : pieces[k + 1]?.bind explicit = explicit pieces[k + 1] := by
      rw [List.getElem?_eq_getElem hk, Option.bind_some]
    cases hexplicit : explicit pieces[k + 1] with
    | none => exact hbefore.step (hpiece.trans hexplicit)
    | some value => exact IsLast.of_explicit (hpiece.trans hexplicit)

end Last

/-! ## What an entry states -/

/-- The fields of a location that hold an integer. -/
inductive IntegerField
  | start
  | length
  | fileIndex
  | modifierDepth
  deriving DecidableEq, Repr

namespace IntegerField

/-- The place of a field among those of an entry. -/
def place : IntegerField → Nat
  | start => 0
  | length => 1
  | fileIndex => 2
  | modifierDepth => 4

/-- The value of a field. -/
def of : IntegerField → Mapping → Int
  | start, m => m.start
  | length, m => m.length
  | fileIndex, m => m.fileIndex
  | modifierDepth, m => m.modifierDepth

/-- The integer that an entry states for a field: that of the part at its place, if there is one that is
    not empty and can be read. -/
def stated? (field : IntegerField) (entry : List Char) : Option Int :=
  ((entry.splitOn ':')[field.place]?).bind (fun part =>
    if part = [] then none else Numeral.read? .decimal (String.ofList part))

end IntegerField

/-- The jump that an entry states: that of its fourth part, if there is one that is not empty. -/
def JumpKind.stated? (entry : List Char) : Option JumpKind :=
  ((entry.splitOn ':')[3]?).bind (fun part =>
    if part = [] then none
    else if part = ['i'] then some .into
    else if part = ['o'] then some .out
    else some .regular)

theorem JumpKind.ofChars_eq_regular {part : List Char} (hinto : part ≠ ['i']) (hout : part ≠ ['o']) :
    JumpKind.ofChars part = .regular := by
  unfold JumpKind.ofChars
  split
  · exact absurd rfl hinto
  · exact absurd rfl hout
  · rfl

namespace Mapping

theorem fieldsOf_eq (entry : List Char) : fieldsOf entry = entry.splitOn ':' :=
  splitAtChar_eq_splitOn ':' entry

theorem inheritInt_eq (entry : List Char) (field : IntegerField) (inherited : Int) :
    inheritInt (fieldsOf entry) field.place inherited = (field.stated? entry).getD inherited := by
  rw [fieldsOf_eq, inheritInt, IntegerField.stated?]
  cases (entry.splitOn ':')[field.place]? with
  | none => rfl
  | some part =>
    cases part with
    | nil => rfl
    | cons c rest => rfl

theorem inheritJump_eq (entry : List Char) (inherited : JumpKind) :
    inheritJump (fieldsOf entry) inherited = (JumpKind.stated? entry).getD inherited := by
  rw [fieldsOf_eq, inheritJump, JumpKind.stated?]
  cases (entry.splitOn ':')[3]? with
  | none => rfl
  | some part =>
    cases part with
    | nil => rfl
    | cons c rest =>
      rw [Option.bind_some, if_neg (List.cons_ne_nil c rest)]
      by_cases hinto : c :: rest = ['i']
      · rw [hinto]
        rfl
      · by_cases hout : c :: rest = ['o']
        · rw [hout]
          rfl
        · rw [if_neg hinto, if_neg hout]
          exact JumpKind.ofChars_eq_regular hinto hout

theorem of_follow (field : IntegerField) (previous : Mapping) (entry : List Char) :
    field.of (previous.follow entry) = (field.stated? entry).getD (field.of previous) := by
  cases entry with
  | nil =>
    -- the only part of the empty entry is empty
    cases field <;> rfl
  | cons c rest =>
    have hstates := inheritInt_eq (c :: rest) field (field.of previous)
    cases field with
    | start => exact hstates
    | length => exact hstates
    | fileIndex => exact hstates
    | modifierDepth => exact hstates

theorem jump_follow (previous : Mapping) (entry : List Char) :
    (previous.follow entry).jump = (JumpKind.stated? entry).getD previous.jump := by
  cases entry with
  | nil => rfl
  | cons c rest => exact inheritJump_eq (c :: rest) previous.jump

/-- A view of locations that each entry changes on its own is folded on its own. -/
theorem view_foldl_follow {β : Type} {view : Mapping → β} {stated? : List Char → Option β}
    (hview : ∀ previous entry, view (previous.follow entry) = (stated? entry).getD (view previous))
    (entries : List (List Char)) (m : Mapping) :
    view (entries.foldl follow m)
      = entries.foldl (fun value entry => (stated? entry).getD value) (view m) := by
  induction entries generalizing m with
  | nil => rfl
  | cons entry rest ih => rw [List.foldl_cons, List.foldl_cons, ih, hview]

end Mapping

/-! ## Whole maps -/

namespace SourceMap

theorem entriesOf_eq (text : String) :
    entriesOf text = (trimChars isBlank text.toList).splitOn ';' :=
  splitAtChar_eq_splitOn ';' _

/-- Reading a map is a scan over its entries; the root location is not part of the map. -/
theorem locate_eq_scanl (previous : Mapping) (out : List Mapping) (pieces : List (List Char)) :
    locate previous out pieces = out.reverse ++ (pieces.scanl Mapping.follow previous).tail := by
  induction pieces generalizing previous out with
  | nil => simp [locate]
  | cons entry rest ih =>
    have hscan : rest.scanl Mapping.follow (previous.follow entry)
        = previous.follow entry :: (rest.scanl Mapping.follow (previous.follow entry)).tail := by
      cases rest with
      | nil => simp
      | cons next rest => simp [List.scanl_cons]
    rw [locate, ih, List.scanl_cons, List.tail_cons, hscan, List.reverse_cons, List.append_assoc]
    rfl

theorem entries_ofText {text : String} (htext : text ≠ "") : (ofText (some text)).entries
    = (((trimChars isBlank text.toList).splitOn ';').scanl Mapping.follow Mapping.root).tail := by
  rw [← entriesOf_eq]
  dsimp only [ofText]
  rw [if_neg htext]
  exact locate_eq_scanl Mapping.root [] (entriesOf text)

/-- The location at a place is made from the entries up to it. -/
theorem getElem?_entries {pieces : List (List Char)} {k : Nat} (hk : k < pieces.length) :
    (pieces.scanl Mapping.follow Mapping.root).tail[k]?
      = some ((pieces.take (k + 1)).foldl Mapping.follow Mapping.root) := by
  rw [List.getElem?_tail, List.getElem?_scanl, if_pos (Nat.succ_le_of_lt hk)]

/-- A map in which every field of every location is inherited on its own: the locations are as many as
    the entries, and what a field holds is the last value that an entry up to there states for it. -/
structure Inherits (pieces : List (List Char)) (map : SourceMap) : Prop where
  length_eq : map.entries.length = pieces.length
  integer : ∀ k m, map.entries[k]? = some m →
    ∀ field : IntegerField, IsLast field.stated? pieces k 0 (field.of m)
  jump : ∀ k m, map.entries[k]? = some m → IsLast JumpKind.stated? pieces k .regular m.jump

/-- The fields of a location fall apart: each view of it that an entry changes on its own is the last
    explicit value for that view. -/
theorem isLast_view {β : Type} {view : Mapping → β} {stated? : List Char → Option β}
    (hview : ∀ previous entry, view (previous.follow entry) = (stated? entry).getD (view previous))
    {pieces : List (List Char)} {k : Nat} {m : Mapping}
    (hm : (pieces.scanl Mapping.follow Mapping.root).tail[k]? = some m) :
    IsLast stated? pieces k (view Mapping.root) (view m) := by
  have hk : k < pieces.length := by
    have hlt := (List.getElem?_eq_some_iff.1 hm).1
    rwa [List.length_tail, List.length_scanl, Nat.add_sub_cancel] at hlt
  rw [getElem?_entries hk] at hm
  rw [← Option.some.inj hm, Mapping.view_foldl_follow hview]
  exact isLast_foldl hk

theorem inherits_ofText {text : String} (htext : text ≠ "") :
    Inherits ((trimChars isBlank text.toList).splitOn ';') (ofText (some text)) := by
  refine ⟨?_, fun k m hm field => ?_, fun k m hm => ?_⟩
  · rw [entries_ofText htext, List.length_tail, List.length_scanl, Nat.add_sub_cancel]
  · rw [entries_ofText htext] at hm
    have hlast := isLast_view (Mapping.of_follow field) hm
    -- all integers of the root location are zero
    cases field <;> exact hlast
  · rw [entries_ofText htext] at hm
    exact isLast_view Mapping.jump_follow hm

/-- Texts whose entries agree up to a place have the same location there. -/
theorem getElem?_entries_congr {pieces others : List (List Char)} {k : Nat}
    (htake : pieces.take (k + 1) = others.take (k + 1)) (hk : k < pieces.length) :
    (pieces.scanl Mapping.follow Mapping.root).tail[k]?
      = (others.scanl Mapping.follow Mapping.root).tail[k]? := by
  have hothers : k < others.length := by
    have hlength := congrArg List.length htake
    rw [List.length_take, List.length_take] at hlength
    omega
  rw [getElem?_entries hk, getElem?_entries hothers, htake]

/-- **The last explicit value wins.** A text that is not empty gives one location for each piece between
    semicolons, blanks around the text left out. Each integer field of a location is the integer stated
    for it by the nearest piece, up to the one of the location, that states one, and zero if none does;
    the jump is the one stated by the nearest piece with a fourth part, and regular if there is none.
    So two texts that state the same for one field up to a place have that field in common there,
    whatever they state for the others, and the pieces behind a place are of no account for it. -/
theorem ofText_last_explicit_wins (text : String) (htext : text ≠ "") :
    Inherits ((trimChars isBlank text.toList).splitOn ';') (ofText (some text))
    ∧ ∀ (other : String), other ≠ "" → ∀ (k : Nat) (m m' : Mapping),
      (ofText (some text)).entries[k]? = some m → (ofText (some other)).entries[k]? = some m' →
      let pieces := (trimChars isBlank text.toList).splitOn ';'
      let others := (trimChars isBlank other.toList).splitOn ';'
      (∀ field : IntegerField,
        (∀ i ≤ k, pieces[i]?.bind field.stated? = others[i]?.bind field.stated?) →
          field.of m = field.of m')
      ∧ ((∀ i ≤ k, pieces[i]?.bind JumpKind.stated? = others[i]?.bind JumpKind.stated?) →
          m.jump = m'.jump)
      ∧ (pieces.take (k + 1) = others.take (k + 1) → m = m') := by
  have hinherits := inherits_ofText htext
  refine ⟨hinherits, fun other hother k m m' hm hm' => ?_⟩
  have hinherits' := inherits_ofText hother
  refine ⟨fun field hagree => ?_, fun hagree => ?_, fun htake => ?_⟩
  · exact (hinherits.integer k m hm field).eq_of_agree (hinherits'.integer k m' hm' field) hagree
  · exact (hinherits.jump k m hm).eq_of_agree (hinherits'.jump k m' hm') hagree
  · have hk : k < ((trimChars isBlank text.toList).splitOn ';').length := by
      rw [← hinherits.length_eq]
      exact (List.getElem?_eq_some_iff.1 hm).1
    have hsame := getElem?_entries_congr htake hk
    rw [← entries_ofText htext, ← entries_ofText hother, hm, hm'] at hsame
    exact Option.some.inj hsame

/-- A part that is no integer is passed over, whether or not the entry states other fields, and the text
    behind a place does not matter: the third location of both texts has the length of the first one. -/
theorem ofText_last_explicit_wins_unreadablePart :
    "1:2:0:i;;:x:3;5:::o:2" ≠ "" ∧ " 7:2::o;;::4 " ≠ ""
    ∧ Inherits ["1:2:0:i".toList, [], ":x:3".toList, "5:::o:2".toList]
      (ofText (some "1:2:0:i;;:x:3;5:::o:2"))
    ∧ (ofText (some "1:2:0:i;;:x:3;5:::o:2")).entries[2]? = some ⟨1, 2, 3, .into, 0⟩
    ∧ (ofText (some " 7:2::o;;::4 ")).entries[2]? = some ⟨7, 2, 4, .out, 0⟩
    ∧ IntegerField.length.of ⟨1, 2, 3, .into, 0⟩ = IntegerField.length.of ⟨7, 2, 4, .out, 0⟩ := by
  have hwins := ofText_last_explicit_wins "1:2:0:i;;:x:3;5:::o:2" (by decide)
  have hlengths := (hwins.2 " 7:2::o;;::4 " (by decide) 2 ⟨1, 2, 3, .into, 0⟩ ⟨7, 2, 4, .out, 0⟩
    (by rfl) (by rfl)).1 .length (by decide)
  exact ⟨by decide, by decide, hwins.1, by rfl, by rfl, hlengths⟩

end SourceMap

end EvmScope
