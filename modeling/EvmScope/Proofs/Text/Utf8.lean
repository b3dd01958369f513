import EvmScope.Text.Utf8
import Mathlib.Data.String.Basic

set_option autoImplicit false

/-! # Reading a text that was cut off

The bytes of a text give its characters back. If the text was cut off inside a character, the bytes that are
left of it give nothing: the character cannot be decoded without its end, and no character begins at one of
its later bytes. So the characters before the cut are read, and no others. In particular no two texts have
the same bytes. -/

namespace EvmScope

theorem bytesOfChars_nil : bytesOfChars [] = [] := rfl

theorem bytesOfChars_cons (c : Char) (rest : List Char) :
    bytesOfChars (c :: rest) = String.utf8EncodeChar c ++ bytesOfChars rest :=
  List.flatMap_cons

theorem bytesOfChars_append (before behind : List Char) :
    bytesOfChars (before ++ behind) = bytesOfChars before ++ bytesOfChars behind :=
  List.flatMap_append

theorem length_bytesOfChars (cs : List Char) : (bytesOfChars cs).length = String.utf8Len cs := by
  induction cs with
  | nil => rfl
  | cons c rest ih =>
    rw [bytesOfChars_cons, List.length_append, ih, String.length_utf8EncodeChar, String.utf8Len_cons,
      Nat.add_comm]

/-! ## The character in front -/

theorem firstChar?_utf8EncodeChar_append (c : Char) (bytes : List UInt8) :
    firstChar? (String.utf8EncodeChar c ++ bytes) = some c := by
  have hsize : (String.utf8EncodeChar c).length ≤ 4 := by
    rw [String.length_utf8EncodeChar]
    exact c.utf8Size_le_four
  rw [firstChar?, List.take_append, List.take_of_length_le hsize, List.toByteArray_append]
  exact ByteArray.utf8DecodeChar?_utf8EncodeChar_append

theorem isUTF8FirstByte_of_firstChar? {byte : UInt8} {rest : List UInt8}
    (hfirst : (firstChar? (byte :: rest)).isSome) : byte.IsUTF8FirstByte := by
  have hbyte := ByteArray.isUTF8FirstByte_of_isSome_utf8DecodeChar? hfirst
  rwa [List.getElem_toByteArray, List.getElem_take, List.getElem_cons_zero] at hbyte

section CutOff

variable {c : Char} {front within lost : List UInt8}

/-- A form that was cut off cannot be decoded. -/
theorem firstChar?_eq_none_of_append (hform : within ++ lost = String.utf8EncodeChar c) (hlost : lost ≠ []) :
    firstChar? within = none := by
  have hlength := congrArg List.length hform
  rw [List.length_append, String.length_utf8EncodeChar] at hlength
  have hmissing := List.length_pos_of_ne_nil hlost
  have hsize := c.utf8Size_le_four
  rw [firstChar?, List.take_of_length_le (by omega)]
  refine Option.eq_none_iff_forall_not_mem.2 (fun d hd => ?_)
  -- what is decoded without the end is decoded with it, and needs all its bytes
  have hwhole := ByteArray.utf8DecodeChar?_append_eq_some hd lost.toByteArray
  rw [← List.toByteArray_append, hform, ← ByteArray.append_empty (b := (String.utf8EncodeChar c).toByteArray),
    ByteArray.utf8DecodeChar?_utf8EncodeChar_append] at hwhole
  have hfits := ByteArray.le_size_of_utf8DecodeChar?_eq_some hd
  rw [← Option.some.inj hwhole, List.size_toByteArray] at hfits
  omega

/-- No character begins inside a form. -/
theorem firstChar?_eq_none_of_behind {byte : UInt8} {rest : List UInt8}
    (hform : front ++ byte :: rest = String.utf8EncodeChar c) (hfront : front ≠ []) (more : List UInt8) :
    firstChar? (byte :: more) = none := by
  by_contra hsome
  have hbyte := isUTF8FirstByte_of_firstChar? (Option.isSome_iff_ne_none.2 hsome)
  have hlt : front.length < (String.utf8EncodeChar c).length := by
    rw [← hform, List.length_append, List.length_cons]
    omega
  have hget : (String.utf8EncodeChar c)[front.length] = byte := by
    simp only [← hform, List.getElem_append_right (Nat.le_refl _), Nat.sub_self, List.getElem_cons_zero]
  rw [← hget, UInt8.isUTF8FirstByte_getElem_utf8EncodeChar] at hbyte
  exact hfront (List.length_eq_zero_iff.1 hbyte)

end CutOff

/-! ## The characters of a text -/

theorem charsBehind_cons_of_some {out : List Char} {byte : UInt8} {rest : List UInt8} {c : Char}
    (hfirst : firstChar? (byte :: rest) = some c) :
    charsBehind out 0 (byte :: rest) = charsBehind (c :: out) (c.utf8Size - 1) rest := by
  rw [charsBehind, hfirst]

theorem charsBehind_cons_of_none {out : List Char} {byte : UInt8} {rest : List UInt8}
    (hfirst : firstChar? (byte :: rest) = none) :
    charsBehind out 0 (byte :: rest) = charsBehind out 0 rest := by
  rw [charsBehind, hfirst]

theorem charsBehind_append_of_inside (out : List Char) (inside bytes : List UInt8) :
    charsBehind out inside.length (inside ++ bytes) = charsBehind out 0 bytes := by
  induction inside with
  | nil => rfl
  | cons byte rest ih => rw [List.length_cons, List.cons_append, charsBehind, ih]

theorem charsBehind_utf8EncodeChar_append (out : List Char) (c : Char) (bytes : List UInt8) :
    charsBehind out 0 (String.utf8EncodeChar c ++ bytes) = charsBehind (c :: out) 0 bytes := by
  have hfirst := firstChar?_utf8EncodeChar_append c bytes
  have hlength := String.length_utf8EncodeChar c
  cases hform : String.utf8EncodeChar c with
  | nil =>
    rw [hform] at hlength
    exact absurd hlength.symm (Nat.ne_of_gt c.utf8Size_pos)
  | cons byte rest =>
    rw [hform, List.cons_append] at hfirst
    rw [hform, List.length_cons] at hlength
    rw [List.cons_append, charsBehind_cons_of_some hfirst, ← hlength, Nat.add_sub_cancel]
    exact charsBehind_append_of_inside (c :: out) rest bytes

theorem charsBehind_bytesOfChars_append (out cs : List Char) (bytes : List UInt8) :
    charsBehind out 0 (bytesOfChars cs ++ bytes) = charsBehind (cs.reverse ++ out) 0 bytes := by
  induction cs generalizing out with
  | nil => rfl
  | cons c rest ih =>
    rw [bytesOfChars_cons, List.append_assoc, charsBehind_utf8EncodeChar_append, ih, List.reverse_cons,
      List.append_assoc, List.singleton_append]

/-- The bytes that are left of a form without its end are all passed over. -/
theorem charsBehind_of_cutOff {c : Char} {front within lost : List UInt8}
    (hform : front ++ within ++ lost = String.utf8EncodeChar c) (hlost : lost ≠ []) (out : List Char) :
    charsBehind out 0 within = out.reverse := by
  induction within generalizing front with
  | nil => rfl
  | cons byte rest ih =>
    have hnone : firstChar? (byte :: rest) = none := by
      cases front with
      | nil => exact firstChar?_eq_none_of_append hform hlost
      | cons first more =>
        rw [List.append_assoc, List.cons_append] at hform
        exact firstChar?_eq_none_of_behind hform (List.cons_ne_nil first more) rest
    have hnext : (front ++ [byte]) ++ rest ++ lost = String.utf8EncodeChar c := by
      rw [← hform, List.append_assoc front [byte] rest, List.singleton_append]
    rw [charsBehind_cons_of_none hnone]
    exact ih hnext

/-- **Reading up to a cut.** Of a text that was cut off inside a character, the characters before it are
    read. -/
theorem charsOfBytes_append_take (before : List Char) {c : Char} {left : Nat} (hleft : left < c.utf8Size) :
    charsOfBytes (bytesOfChars before ++ (String.utf8EncodeChar c).take left) = before := by
  have hlost : (String.utf8EncodeChar c).drop left ≠ [] := by
    rw [ne_eq, List.drop_eq_nil_iff, String.length_utf8EncodeChar]
    omega
  have hform : [] ++ (String.utf8EncodeChar c).take left ++ (String.utf8EncodeChar c).drop left
      = String.utf8EncodeChar c := by
    rw [List.nil_append, List.take_append_drop]
  rw [charsOfBytes, charsBehind_bytesOfChars_append, charsBehind_of_cutOff hform hlost, List.append_nil,
    List.reverse_reverse]

/-- A text that was not cut off is read as a whole. -/
theorem charsOfBytes_bytesOfChars (cs : List Char) : charsOfBytes (bytesOfChars cs) = cs := by
  rw [charsOfBytes, ← List.append_nil (bytesOfChars cs), charsBehind_bytesOfChars_append, charsBehind,
    List.append_nil, List.reverse_reverse]

/-! ## Texts by their bytes -/

/-- The bytes of a row in a list, from some place on. -/
theorem toList_loop_eq (bytes : ByteArray) (place : Nat) (out : List UInt8) :
    ByteArray.toList.loop bytes place out = out.reverse ++ bytes.data.toList.drop place := by
  induction place, out using ByteArray.toList.loop.induct bytes with
  | case1 place out hplace ih =>
    have hbound : place < bytes.data.toList.length := hplace
    have hbyte : bytes.get! place = bytes.data.toList[place] := by
      rw [ByteArray.get!, getElem!_pos bytes.data place hplace]
      rfl
    rw [ByteArray.toList.loop, if_pos hplace, ih, List.reverse_cons, List.append_assoc, hbyte,
      List.singleton_append, ← List.drop_eq_getElem_cons hbound]
  | case2 place out hplace =>
    have hbound : bytes.data.toList.length ≤ place := Nat.le_of_not_lt hplace
    rw [ByteArray.toList.loop, if_neg hplace, List.drop_eq_nil_of_le hbound, List.append_nil]

/-- The bytes of the UTF-8 form of a text are those of its characters. -/
theorem toList_toUTF8 (text : String) : text.toUTF8.toList = bytesOfChars text.toList := by
  have hbytes : text.toUTF8 = (bytesOfChars text.toList).toByteArray := by
    rw [String.toUTF8_eq_toByteArray, ← String.utf8Encode_toList]
    rfl
  rw [hbytes, ByteArray.toList, toList_loop_eq, List.reverse_nil, List.nil_append, List.drop_zero,
    List.toList_data_toByteArray]

theorem bytesOfChars_injective : Function.Injective bytesOfChars :=
  Function.LeftInverse.injective charsOfBytes_bytesOfChars

/-- Every character has a byte of its own. -/
theorem length_le_length_bytesOfChars (cs : List Char) : cs.length ≤ (bytesOfChars cs).length := by
  induction cs with
  | nil => exact Nat.le_refl _
  | cons c rest ih =>
    have hsize := c.utf8Size_pos
    rw [bytesOfChars_cons, List.length_append, String.length_utf8EncodeChar, List.length_cons]
    omega

end EvmScope
