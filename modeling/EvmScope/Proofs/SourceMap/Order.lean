import EvmScope.Proofs.SourceMap.Position
import Mathlib.Order.Bounds.Basic

set_option autoImplicit false

/-! # Byte offsets in reading order

Whatever number is given as a byte offset, it has a place: behind the most characters whose bytes fit into
that number, none for a negative one and all of them for one beyond the text. A greater offset does not lead
further back, and offsets at which characters begin or end lead to different places. -/

namespace EvmScope

/-! ## The most characters within a number of bytes -/

/-- How many of the leading characters of a text have no more bytes than an offset says. -/
def fitting (source : String) (offset : Int) : Set Nat :=
  {n | n ≤ source.toList.length ∧ ((bytesOfChars (source.toList.take n)).length : Int) ≤ max offset 0}

/-- The byte offsets at which characters of a text begin or end. -/
def boundaries (source : String) : Set Int :=
  {offset | ∃ n ≤ source.toList.length, offset = ((bytesOfChars (source.toList.take n)).length : Int)}

namespace FurthestWithin

variable {before behind : List Char}

theorem isGreatest {source : String} {offset : Int} (hsource : source.toList = before ++ behind)
    (hfurthest : FurthestWithin offset.toNat before behind) :
    IsGreatest (fitting source offset) before.length := by
  constructor
  · have hfits := hfurthest.fits
    refine ⟨?_, ?_⟩
    · rw [hsource, List.length_append]
      omega
    · rw [hsource, List.take_left, length_bytesOfChars]
      omega
  · rintro n ⟨hn, hbytes⟩
    rw [length_bytesOfChars] at hbytes
    have hsame : before ++ behind = source.toList.take n ++ source.toList.drop n := by
      rw [List.take_append_drop, hsource]
    have hprefix := hfurthest.isPrefix_of_le hsame (by omega)
    have hlength := hprefix.length_le
    rwa [List.length_take, Nat.min_eq_left hn] at hlength

/-- The furthest place within the bytes of some characters is behind these. -/
theorem utf8Len_self (before behind : List Char) :
    FurthestWithin (String.utf8Len before) before behind :=
  ⟨Nat.le_refl _, fun c _ => Nat.lt_add_of_pos_right c.utf8Size_pos⟩

end FurthestWithin

/-- A byte offset leads behind the most characters that fit. -/
theorem exists_isGreatest_positionAt (source : String) (offset : Int) :
    ∃ most, IsGreatest (fitting source offset) most
      ∧ positionAt source offset = Position.after (source.toList.take most) := by
  obtain ⟨before, behind, hsource, hfurthest, hposition⟩ := exists_positionAt_eq source.toList offset
  refine ⟨before.length, hfurthest.isGreatest hsource, ?_⟩
  rw [String.ofList_toList] at hposition
  rw [hposition, hsource, List.take_left]

theorem positionAt_le_of_le (source : String) {offset later : Int} (hle : offset ≤ later) :
    (positionAt source offset).inReadingOrder ≤ (positionAt source later).inReadingOrder := by
  obtain ⟨most, ⟨⟨hmost, hbytes⟩, -⟩, hposition⟩ := exists_isGreatest_positionAt source offset
  obtain ⟨further, hfurther, hlater⟩ := exists_isGreatest_positionAt source later
  -- what fits into fewer bytes fits into more
  have hfits : most ∈ fitting source later := ⟨hmost, by omega⟩
  have hprefix : source.toList.take most <+: source.toList.take further :=
    List.take_prefix_take_left (hfurther.2 hfits)
  rw [hposition, hlater]
  exact Position.after_le_of_isPrefix hprefix

theorem positionAt_bytes_take (source : String) (n : Nat) :
    positionAt source ((bytesOfChars (source.toList.take n)).length : Int)
      = Position.after (source.toList.take n) := by
  have hfurthest := FurthestWithin.utf8Len_self (source.toList.take n) (source.toList.drop n)
  rw [← length_bytesOfChars, ← Int.toNat_natCast (bytesOfChars (source.toList.take n)).length] at hfurthest
  have hposition := positionAt_of_furthestWithin hfurthest
  rwa [List.take_append_drop, String.ofList_toList] at hposition

theorem injOn_positionAt (source : String) : Set.InjOn (positionAt source) (boundaries source) := by
  rintro _ ⟨n, -, rfl⟩ _ ⟨m, -, rfl⟩ hsame
  rw [positionAt_bytes_take, positionAt_bytes_take] at hsame
  -- of two places one lies before the other, and a place further on has another position
  have htake : source.toList.take n = source.toList.take m := by
    rcases List.prefix_or_prefix_of_prefix (List.take_prefix n source.toList)
      (List.take_prefix m source.toList) with hle | hle
    · exact Position.eq_of_after_eq hle hsame
    · exact (Position.eq_of_after_eq hle hsame.symm).symm
  rw [htake]

/-- How the byte offsets of a text lead to positions. -/
structure OffsetsInOrder (source : String) : Prop where
  /-- The line counts the line feeds among the most characters that fit into the bytes, and the column
      those of the characters that stand behind the last line feed. -/
  exists_most : ∀ offset : Int, ∃ most, IsGreatest (fitting source offset) most
    ∧ positionAt source offset = Position.after (source.toList.take most)
  /-- A greater offset does not lead further back. -/
  le_of_le : ∀ offset later : Int, offset ≤ later →
    (positionAt source offset).inReadingOrder ≤ (positionAt source later).inReadingOrder
  /-- Between two characters every offset has a place of its own. -/
  injOn : Set.InjOn (positionAt source) (boundaries source)

/-- **Byte offsets in a text.** In every text the offsets lead behind the characters that fit, in the order
    of reading. -/
theorem positionAt_offsetsInOrder (source : String) : OffsetsInOrder source where
  exists_most := exists_isGreatest_positionAt source
  le_of_le := fun _ _ => positionAt_le_of_le source
  injOn := injOn_positionAt source

-- the second byte of a character leads to the place before it, and the line feed has a byte of its own
example : ([2, 3, 4] : List Int).map (positionAt "aé\nb") = [⟨0, 1⟩, ⟨0, 2⟩, ⟨1, 0⟩] := by decide

end EvmScope
