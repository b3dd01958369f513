import EvmScope.Proofs.Text.Newline
import EvmScope.Proofs.Text.Utf8
import EvmScope.SourceMap.Position
import Mathlib.Data.List.Induction
import Mathlib.Data.Prod.Lex
import Mathlib.Data.String.Basic

set_option autoImplicit false

/-! # Positions without a walk

A position is found by walking over the text before it. Here it is said without a walk: the line is the
number of line feeds before the place, and the column the number of characters behind the last of them; a
place further on comes later in the order of lines and columns.

A byte offset leads to the furthest place that has no more bytes than that before it, in a text of ASCII
alone and in any other; an offset inside a character leads to the place before the character, and one
beyond the text to its end.

Offsets that count the carriage returns of a text lead too far once these are left out: each return
before the offset moves it on by one byte. The place is missed as soon as the bytes that are missing
reach over the character that should follow it. -/

namespace EvmScope

/-! ## Lines and columns -/

namespace Position

/-- The position behind a text: as many lines as it has line feeds, and as many columns as it has
    characters behind the last of them. -/
def after (before : List Char) : Position :=
  ⟨before.count lineFeed, (before.reverse.takeWhile (· ≠ lineFeed)).length⟩

theorem advance_eq (p : Position) (c : Char) :
    p.advance c = if c = lineFeed then ⟨p.line + 1, 0⟩ else ⟨p.line, p.column + 1⟩ := rfl

theorem after_concat (before : List Char) (c : Char) :
    after (before ++ [c]) = (after before).advance c := by
  rw [advance_eq]
  by_cases hc : c = lineFeed
  · rw [if_pos hc, hc, after, List.count_append, List.count_singleton_self, List.reverse_concat,
      List.takeWhile_cons_of_neg (by simp)]
    rfl
  · rw [if_neg hc, after, List.count_append, List.count_singleton,
      if_neg (fun heq => hc (beq_iff_eq.1 heq)), List.reverse_concat,
      List.takeWhile_cons_of_pos (by simp [hc])]
    rfl

theorem foldl_advance (before cs : List Char) :
    cs.foldl advance (after before) = after (before ++ cs) := by
  induction cs generalizing before with
  | nil => rw [List.append_nil, List.foldl_nil]
  | cons c rest ih => rw [List.foldl_cons, ← after_concat, ih, List.append_assoc, List.singleton_append]

theorem behind_eq_after (cs : List Char) : behind cs = after cs :=
  foldl_advance [] cs

/-- Positions in the order of reading: by their lines, and in one line by their columns. -/
def inReadingOrder (p : Position) : ℕ ×ₗ ℕ :=
  toLex (p.line, p.column)

theorem lt_advance (p : Position) (c : Char) : p.inReadingOrder < (p.advance c).inReadingOrder := by
  rw [advance_eq, inReadingOrder, inReadingOrder, Prod.Lex.toLex_lt_toLex]
  by_cases hc : c = lineFeed
  · rw [if_pos hc]
    exact Or.inl (Nat.lt_succ_self p.line)
  · rw [if_neg hc]
    exact Or.inr ⟨rfl, Nat.lt_succ_self p.column⟩

/-- The position behind more characters comes later. -/
theorem after_lt_append (before : List Char) {more : List Char} (hmore : more ≠ []) :
    (after before).inReadingOrder < (after (before ++ more)).inReadingOrder := by
  induction more using List.reverseRecOn with
  | nil => exact absurd rfl hmore
  | append_singleton front c ih =>
    have hstep := lt_advance (after (before ++ front)) c
    rw [← after_concat, List.append_assoc] at hstep
    by_cases hfront : front = []
    · subst hfront
      rwa [List.append_nil] at hstep
    · exact (ih hfront).trans hstep

theorem after_append_ne (before : List Char) {more : List Char} (hmore : more ≠ []) :
    after (before ++ more) ≠ after before := by
  intro heq
  have hlt := after_lt_append before hmore
  rw [heq] at hlt
  exact lt_irrefl _ hlt

theorem after_le_of_isPrefix {before further : List Char} (hle : before <+: further) :
    (after before).inReadingOrder ≤ (after further).inReadingOrder := by
  obtain ⟨more, rfl⟩ := hle
  by_cases hmore : more = []
  · rw [hmore, List.append_nil]
  · exact (after_lt_append before hmore).le

theorem eq_of_after_eq {before further : List Char} (hle : before <+: further)
    (hsame : after before = after further) : before = further := by
  obtain ⟨more, rfl⟩ := hle
  by_contra hne
  refine after_append_ne before (fun hmore => hne ?_) hsame.symm
  rw [hmore, List.append_nil]

end Position

/-! ## Byte offsets -/

theorem utf8Size_of_isAscii {cs : List Char} (hascii : isAscii (String.ofList cs) = true) :
    ∀ c ∈ cs, c.utf8Size = 1 := by
  intro c hc
  rw [isAscii, String.toList_ofList, List.all_eq_true] at hascii
  have hlt := of_decide_eq_true (hascii c hc)
  rw [Char.utf8Size_eq_one_iff]
  exact UInt32.le_iff_toNat_le.2 (Nat.le_of_lt_succ hlt)

theorem utf8Len_eq_length {cs : List Char} (hcs : ∀ c ∈ cs, c.utf8Size = 1) :
    String.utf8Len cs = cs.length := by
  induction cs with
  | nil => rfl
  | cons c rest ih =>
    rw [String.utf8Len_cons, List.length_cons, hcs c List.mem_cons_self,
      ih (fun d hd => hcs d (List.mem_cons_of_mem c hd))]

/-- A place in a text is the furthest one within a number of bytes: no more bytes stand before it, and
    the character behind it, if there is one, goes beyond that number. -/
structure FurthestWithin (budget : Nat) (before behind : List Char) : Prop where
  fits : String.utf8Len before ≤ budget
  full : ∀ c ∈ behind.head?, budget < String.utf8Len before + c.utf8Size

namespace FurthestWithin

variable {budget : Nat} {before behind : List Char}

theorem nil_iff : FurthestWithin budget [] behind ↔ ∀ c ∈ behind.head?, budget < c.utf8Size := by
  constructor
  · intro hfurthest c hc
    have hfull := hfurthest.full c hc
    rwa [String.utf8Len_nil, Nat.zero_add] at hfull
  · intro hfull
    refine ⟨Nat.zero_le budget, fun c hc => ?_⟩
    rw [String.utf8Len_nil, Nat.zero_add]
    exact hfull c hc

theorem cons_iff {c : Char} : FurthestWithin budget (c :: before) behind
    ↔ c.utf8Size ≤ budget ∧ FurthestWithin (budget - c.utf8Size) before behind := by
  constructor
  · rintro ⟨hfits, hfull⟩
    rw [String.utf8Len_cons] at hfits
    refine ⟨by omega, by omega, fun d hd => ?_⟩
    have hd' := hfull d hd
    rw [String.utf8Len_cons] at hd'
    omega
  · rintro ⟨hc, hfits, hfull⟩
    refine ⟨by rw [String.utf8Len_cons]; omega, fun d hd => ?_⟩
    have hd' := hfull d hd
    rw [String.utf8Len_cons]
    omega

/-- Every text has a furthest place within a number of bytes. -/
theorem exists_of (budget : Nat) (cs : List Char) :
    ∃ before behind, cs = before ++ behind ∧ FurthestWithin budget before behind := by
  induction cs generalizing budget with
  | nil => exact ⟨[], [], rfl, nil_iff.2 (fun c hc => by cases hc)⟩
  | cons c rest ih =>
    by_cases hc : c.utf8Size ≤ budget
    · obtain ⟨before, behind, rfl, hfurthest⟩ := ih (budget - c.utf8Size)
      exact ⟨c :: before, behind, rfl, cons_iff.2 ⟨hc, hfurthest⟩⟩
    · refine ⟨[], c :: rest, rfl, nil_iff.2 (fun d hd => ?_)⟩
      rw [← Option.some.inj hd]
      omega

/-- A text that is cut off after a number of bytes is read up to the furthest place. -/
theorem charsOfBytes_take (hfurthest : FurthestWithin budget before behind) :
    charsOfBytes ((bytesOfChars (before ++ behind)).take budget) = before := by
  have hfits := hfurthest.fits
  rw [← length_bytesOfChars] at hfits
  rw [bytesOfChars_append, List.take_append, List.take_of_length_le hfits]
  cases behind with
  | nil => rw [bytesOfChars_nil, List.take_nil, List.append_nil, charsOfBytes_bytesOfChars]
  | cons c rest =>
    have hfull := hfurthest.full c rfl
    rw [← length_bytesOfChars] at hfull
    have hleft : budget - (bytesOfChars before).length < c.utf8Size := by omega
    have hform : budget - (bytesOfChars before).length ≤ (String.utf8EncodeChar c).length := by
      rw [String.length_utf8EncodeChar]
      omega
    rw [bytesOfChars_cons, List.take_append_of_le_length hform, charsOfBytes_append_take before hleft]

/-- In ASCII the furthest place has as many characters before it as there are bytes. -/
theorem take_of_ascii (hfurthest : FurthestWithin budget before behind)
    (hascii : ∀ c ∈ before ++ behind, c.utf8Size = 1) : (before ++ behind).take budget = before := by
  have hlength : String.utf8Len before = before.length :=
    utf8Len_eq_length (fun c hc => hascii c (List.mem_append_left behind hc))
  have hfits := hfurthest.fits
  rw [hlength] at hfits
  cases behind with
  | nil => rw [List.append_nil, List.take_of_length_le hfits]
  | cons c rest =>
    have hfull := hfurthest.full c rfl
    rw [hlength, hascii c (List.mem_append_right before List.mem_cons_self)] at hfull
    exact List.take_left' (by omega)

/-- The characters that a byte offset counts are those before the furthest place. -/
theorem take_charOffset {offset : Int} (hfurthest : FurthestWithin offset.toNat before behind) :
    (before ++ behind).take (charOffset (String.ofList (before ++ behind)) offset).toNat = before := by
  rw [charOffset]
  by_cases hascii : isAscii (String.ofList (before ++ behind)) = true
  · rw [if_pos hascii]
    exact hfurthest.take_of_ascii (utf8Size_of_isAscii hascii)
  · rw [if_neg hascii, String.toList_ofList, hfurthest.charsOfBytes_take, Int.toNat_natCast,
      List.take_left]

/-- What fits into the number of bytes does not go beyond the furthest place. -/
theorem isPrefix_of_le (hfurthest : FurthestWithin budget before behind) {xs ys : List Char}
    (hsame : before ++ behind = xs ++ ys) (hxs : String.utf8Len xs ≤ budget) : xs <+: before := by
  rcases List.prefix_or_prefix_of_prefix ⟨ys, hsame.symm⟩ (List.prefix_append before behind) with hle | hge
  · exact hle
  · obtain ⟨more, rfl⟩ := hge
    cases more with
    | nil => exact ⟨[], by simp only [List.append_nil]⟩
    | cons c rest =>
      -- the character behind the furthest place would fit as well
      rw [List.append_assoc] at hsame
      rw [List.append_cancel_left hsame] at hfurthest
      have hfull := hfurthest.full c rfl
      rw [String.utf8Len_append, String.utf8Len_cons] at hxs
      omega

end FurthestWithin

theorem positionAt_of_furthestWithin {before behind : List Char} {offset : Int}
    (hfurthest : FurthestWithin offset.toNat before behind) :
    positionAt (String.ofList (before ++ behind)) offset = Position.after before := by
  rw [positionAt, Position.ofOffset, String.toList_ofList, hfurthest.take_charOffset,
    Position.behind_eq_after]

/-- Every byte offset has the position of the furthest place within it. -/
theorem exists_positionAt_eq (cs : List Char) (offset : Int) :
    ∃ before behind, cs = before ++ behind ∧ FurthestWithin offset.toNat before behind
      ∧ positionAt (String.ofList cs) offset = Position.after before := by
  obtain ⟨before, behind, rfl, hfurthest⟩ := FurthestWithin.exists_of offset.toNat cs
  exact ⟨before, behind, rfl, hfurthest, positionAt_of_furthestWithin hfurthest⟩

/-! ## Carriage returns -/

theorem utf8Len_dropReturns (cs : List Char) :
    String.utf8Len (dropReturns cs) + cs.count carriageReturn = String.utf8Len cs := by
  induction cs with
  | nil => rfl
  | cons c rest ih =>
    by_cases hc : c = carriageReturn
    · have hsize : carriageReturn.utf8Size = 1 := by decide
      rw [hc, dropReturns_cons_return, List.count_cons_self, String.utf8Len_cons, hsize]
      omega
    · rw [dropReturns_cons_of_ne hc, List.count_cons_of_ne hc, String.utf8Len_cons, String.utf8Len_cons]
      omega

theorem line_after_dropReturns (cs : List Char) :
    (Position.after (dropReturns cs)).line = (Position.after cs).line :=
  List.count_filter (by decide)

namespace PairedReturns

variable {before behind : List Char}

/-- Without the carriage returns a place is where it was, unless it lies between the two characters of a
    line end. -/
theorem after_dropReturns (hpaired : PairedReturns (before ++ behind))
    (hlast : before.getLast? ≠ some carriageReturn) :
    Position.after (dropReturns before) = Position.after before := by
  induction before using List.reverseRecOn generalizing behind with
  | nil => rfl
  | append_singleton front c ih =>
    have hc : c ≠ carriageReturn := by
      rintro rfl
      exact hlast List.getLast?_concat
    have hsingle : dropReturns [c] = [c] := dropReturns_cons_of_ne hc []
    rw [List.append_assoc] at hpaired
    rw [dropReturns_append, hsingle, Position.after_concat, Position.after_concat]
    by_cases hfeed : c = lineFeed
    · -- behind a line feed only the lines count
      rw [Position.advance_eq, Position.advance_eq, if_pos hfeed, if_pos hfeed, line_after_dropReturns]
    · rw [ih hpaired (fun hreturn => hfeed (Option.some.inj (hpaired.head?_of_getLast? hreturn)))]

/-- Without the carriage returns a place is followed by a character of the same length. -/
theorem exists_dropReturns_eq_cons {c : Char} {rest : List Char} (hpaired : PairedReturns (c :: rest)) :
    ∃ d more, dropReturns (c :: rest) = d :: more ∧ d.utf8Size = c.utf8Size := by
  by_cases hc : c = carriageReturn
  · obtain ⟨more, rfl⟩ : ∃ more, rest = lineFeed :: more := by
      have hhead := hpaired.1 hc
      cases rest with
      | nil => cases hhead
      | cons d more => exact ⟨more, congrArg (· :: more) (Option.some.inj hhead)⟩
    rw [hc, dropReturns_cons_return, dropReturns_cons_of_ne (by decide)]
    exact ⟨lineFeed, dropReturns more, rfl, by decide⟩
  · exact ⟨c, dropReturns rest, dropReturns_cons_of_ne hc rest, rfl⟩

/-- Without the carriage returns a place is found again only if nothing is added to the text before it. -/
theorem after_dropReturns_append_ne {d : Char} {more : List Char}
    (hpaired : PairedReturns (before ++ behind)) (hdrop : dropReturns behind = d :: more)
    (beyond : List Char) : Position.after (dropReturns before ++ d :: beyond) ≠ Position.after before := by
  intro hfound
  by_cases hlast : before.getLast? = some carriageReturn
  · -- what is added is the line feed of the line end that the place lies in
    obtain ⟨rest, rfl⟩ := List.head?_eq_some_iff.1 (hpaired.head?_of_getLast? hlast)
    rw [dropReturns_cons_of_ne (by decide)] at hdrop
    have hlines := congrArg Position.line hfound
    rw [← line_after_dropReturns before, ← (List.cons.inj hdrop).1] at hlines
    simp only [Position.after, List.count_append, List.count_cons_self] at hlines
    omega
  · rw [← hpaired.after_dropReturns hlast] at hfound
    exact Position.after_append_ne _ (List.cons_ne_nil d beyond) hfound

/-- Few carriage returns lead an offset into the character that follows its place, but not past it. -/
theorem furthestWithin_dropReturns (hpaired : PairedReturns (before ++ behind))
    (hfew : ∀ c ∈ behind.head?, before.count carriageReturn < c.utf8Size) :
    FurthestWithin (String.utf8Len before) (dropReturns before) (dropReturns behind) := by
  have hbytes := utf8Len_dropReturns before
  refine ⟨by omega, fun d hd => ?_⟩
  cases behind with
  | nil => cases hd
  | cons c rest =>
    obtain ⟨d', more, hdrop, hsize⟩ := hpaired.of_append_right.exists_dropReturns_eq_cons
    have hlt := hfew c rfl
    rw [hdrop] at hd
    rw [← Option.some.inj hd]
    omega

/-- **Where offsets that count the carriage returns lead.** The place is found exactly if the returns before
    it are fewer than the bytes of the character that follows it, or if it is the end of the text. -/
theorem positionAt_eq_after_iff (hpaired : PairedReturns (before ++ behind)) :
    positionAt (String.ofList (dropReturns (before ++ behind))) (String.utf8Len before)
        = Position.after before
      ↔ ∀ c ∈ behind.head?, before.count carriageReturn < c.utf8Size := by
  constructor
  · intro hfound c hc
    obtain ⟨rest, rfl⟩ := List.head?_eq_some_iff.1 hc
    by_contra hreturns
    -- the character that follows is passed over as well
    obtain ⟨d, more, hdrop, hsize⟩ := hpaired.of_append_right.exists_dropReturns_eq_cons
    obtain ⟨passed, left, hsame, hfurthest, hposition⟩ :=
      exists_positionAt_eq (dropReturns (before ++ c :: rest)) (String.utf8Len before)
    have hsplit : passed ++ left = (dropReturns before ++ [d]) ++ more := by
      rw [← hsame, dropReturns_append, hdrop, List.append_assoc, List.singleton_append]
    have hfits : String.utf8Len (dropReturns before ++ [d]) ≤ (String.utf8Len before : Int).toNat := by
      have hbytes := utf8Len_dropReturns before
      rw [String.utf8Len_append, String.utf8Len_cons, String.utf8Len_nil, Int.toNat_natCast]
      omega
    obtain ⟨beyond, rfl⟩ := hfurthest.isPrefix_of_le hsplit hfits
    rw [hposition, List.append_assoc, List.singleton_append] at hfound
    exact hpaired.after_dropReturns_append_ne hdrop beyond hfound
  · intro hfew
    have hlast : before.getLast? ≠ some carriageReturn := by
      -- the place would be followed by a line feed, which has one byte
      intro hlast
      have hlt := hfew lineFeed (hpaired.head?_of_getLast? hlast)
      have hpos := List.count_pos_iff.2 (List.mem_of_getLast? hlast)
      have hsize : lineFeed.utf8Size = 1 := by decide
      omega
    have hfurthest := hpaired.furthestWithin_dropReturns hfew
    rw [← Int.toNat_natCast (String.utf8Len before)] at hfurthest
    rw [dropReturns_append, positionAt_of_furthestWithin hfurthest, hpaired.after_dropReturns hlast]

end PairedReturns

end EvmScope
