import EvmScope.Proofs.Simulation.Range
import EvmScope.Proofs.Storage.Signed

set_option autoImplicit false

/-! # Types told from values

A slot without a variable has no type, so its changes are given one by the look of the word that was written.
Digits are counted for this, and a word of 153 to 160 bits is first filled up to the forty digits of an address.
All the same the type is a matter of size: a number has at most `k` digits exactly if it is below `16 ^ k`, and at
most `k` bits exactly if it is below `2 ^ k`. Forty digits begin at 157 bits, so what is filled up makes one range
with the numbers that have forty digits of their own, and the types are four ranges of numbers (`typeOfRange`).

A change holds its word in the shortest form, so the current state fills an address up once more when it shows
the last change to a key. -/

namespace EvmScope

namespace Word

/-! ## Ranges -/

/-- The type of a number by its size. -/
def typeOfRange (n : Int) : String :=
  if n ≤ 1 then "Boolean or Number"
  else if n < 2 ^ 16 then "Small Number"
  else if 2 ^ 152 ≤ n ∧ n < 2 ^ 160 then "Likely Address"
  else "Number or Bytes"

/-- A type goes by the range of a number that has no sign. -/
structure GoesByRange (type : String) (n : Int) : Prop where
  boolean_iff : type = "Boolean or Number" ↔ n ≤ 1
  small_iff : type = "Small Number" ↔ 2 ≤ n ∧ n < 2 ^ 16
  address_iff : type = "Likely Address" ↔ 2 ^ 152 ≤ n ∧ n < 2 ^ 160
  other_iff : type = "Number or Bytes" ↔ (2 ^ 16 ≤ n ∧ n < 2 ^ 152) ∨ 2 ^ 160 ≤ n

theorem goesByRange_typeOfRange (n : Int) : GoesByRange (typeOfRange n) n := by
  unfold typeOfRange
  -- no two types have one name, so in each range three of the names are refuted
  split_ifs
  all_goals constructor <;> simp <;> omega

/-! ## Addresses -/

/-- The small hexadecimal digits. -/
def smallDigits : List Char :=
  "0123456789abcdef".toList

/-- A text is a number in the form of an address: the mark, and behind it forty small digits that spell the
    number. -/
def IsAddressOf (text : String) (n : Nat) : Prop :=
  ∃ digits, text.toList = '0' :: 'x' :: digits ∧ digits.length = 40 ∧ (∀ c ∈ digits, c ∈ smallDigits)
    ∧ Numeral.Digits 16 false 0 digits n

/-- The digits of a number, filled up to those of an address. -/
def filledUp (n : Nat) : List Char :=
  List.replicate (addressDigits - (Nat.toDigits 16 n).length) '0' ++ Nat.toDigits 16 n

theorem length_toDigits_le_iff (n k : Nat) (hk : 0 < k) : (Nat.toDigits 16 n).length ≤ k ↔ n < 2 ^ (4 * k) := by
  rw [Nat.length_toDigits_le_iff (by decide) hk, Nat.pow_mul]

theorem length_filledUp {n : Nat} (hn : n < 2 ^ 160) : (filledUp n).length = addressDigits := by
  have hlength := (length_toDigits_le_iff n addressDigits (by decide)).2 hn
  rw [filledUp, List.length_append, List.length_replicate]
  omega

theorem mem_smallDigits_of_mem_filledUp {n : Nat} {c : Char} (hc : c ∈ filledUp n) : c ∈ smallDigits := by
  rcases List.mem_append.1 hc with hc | hc
  · rw [List.eq_of_mem_replicate hc]
    decide
  · obtain ⟨digit, hdigit, rfl⟩ := Numeral.exists_digit_of_mem_toDigits 16 n (by decide) c hc
    have hall : ∀ d, d < 16 → Nat.digitChar d ∈ smallDigits := by decide
    exact hall digit hdigit

/-- A text with the mark in front of digits that are filled up. -/
theorem mark_append_padLeft (n : Nat) :
    "0x" ++ padLeft addressDigits '0' (String.ofList (Nat.toDigits 16 n))
      = String.ofList ('0' :: 'x' :: filledUp n) := by
  rw [← String.toList_inj]
  simp [padLeft, filledUp]

theorem isAddressOf_filledUp {n : Nat} (hn : n < 2 ^ 160) :
    IsAddressOf (String.ofList ('0' :: 'x' :: filledUp n)) n :=
  ⟨filledUp n, String.toList_ofList, length_filledUp hn, fun _ hc => mem_smallDigits_of_mem_filledUp hc,
    digits_of_zeros _ n⟩

/-! ## The type of a word -/

/-- A written word is looked at without its mark. -/
theorem inferType_of_mark (digits : List Char) :
    inferType (String.ofList ('0' :: 'x' :: digits))
      = if digits = ['0'] ∨ digits = ['1'] then "Boolean or Number"
        else if digits.length = addressDigits then "Likely Address"
        else if digits.length ≤ 4 then "Small Number"
        else "Number or Bytes" := by
  have hzero : String.ofList digits = "0" ↔ digits = ['0'] := by
    rw [← String.toList_inj, String.toList_ofList]
    rfl
  have hone : String.ofList digits = "1" ↔ digits = ['1'] := by
    rw [← String.toList_inj, String.toList_ofList]
    rfl
  unfold inferType
  simp only [dropMark_of_mark, String.length_ofList, Bool.or_eq_true, decide_eq_true_eq, hzero, hone]

theorem toDigits_eq_or_iff (n : Nat) :
    Nat.toDigits 16 n = ['0'] ∨ Nat.toDigits 16 n = ['1'] ↔ n ≤ 1 := by
  constructor
  · rintro (hzero | hone)
    · have hn : n = 0 := Numeral.toDigits_injective 16 n 0 (by decide) (by decide) hzero
      omega
    · have hn : n = 1 := Numeral.toDigits_injective 16 n 1 (by decide) (by decide) hone
      omega
  · intro hn
    rcases Nat.le_one_iff_eq_zero_or_eq_one.1 hn with rfl | rfl
    · exact .inl rfl
    · exact .inr rfl

/-- The words that are filled up are those of 153 to 160 binary digits. -/
theorem fills_iff (n : Nat) :
    (153 ≤ bitLength n && bitLength n ≤ 160) = true ↔ 2 ^ 152 ≤ n ∧ n < 2 ^ 160 := by
  have hbelow := Argument.bitLength_le_iff n 152
  have hwithin := Argument.bitLength_le_iff n 160
  rw [Int.natAbs_natCast] at hbelow hwithin
  rw [Bool.and_eq_true, decide_eq_true_eq, decide_eq_true_eq, hwithin]
  omega

theorem paddedHex_natCast (n : Nat) :
    paddedHex addressDigits n = String.ofList ('0' :: 'x' :: filledUp n) := by
  have hsign : ¬ (n : Int) < 0 := by omega
  rw [← mark_append_padLeft]
  simp [paddedHex, hsign]

/-- **The type of a word** goes by the range of its number. -/
theorem inferTypeOf_eq (n : Nat) : inferTypeOf n = typeOfRange n := by
  unfold inferTypeOf typeOfRange
  dsimp only
  by_cases hfills : 2 ^ 152 ≤ n ∧ n < 2 ^ 160
  · have hlength := length_filledUp hfills.2
    have hlong : ¬ (filledUp n = ['0'] ∨ filledUp n = ['1']) := by
      rintro (hdigits | hdigits)
      · simp [hdigits, addressDigits] at hlength
      · simp [hdigits, addressDigits] at hlength
    rw [if_pos ((fills_iff n).2 hfills), paddedHex_natCast, inferType_of_mark, if_neg hlong, if_pos hlength,
      if_neg (by omega), if_neg (by omega), if_pos (by omega)]
  · -- forty digits begin at `2 ^ 156`, so no word outside the range has the digits of an address
    have hforty := length_toDigits_le_iff n 40 (by decide)
    have hthirtynine := length_toDigits_le_iff n 39 (by decide)
    have hlength : (Nat.toDigits 16 n).length ≠ addressDigits := by
      unfold addressDigits
      omega
    have hmark : Numeral.hex n = String.ofList ('0' :: 'x' :: Nat.toDigits 16 n) := by
      rw [← String.toList_inj, hex_natCast, String.toList_append]
      simp
    have hboolean : (n : Int) ≤ 1 ↔ n ≤ 1 := by omega
    have hsmall : (n : Int) < 2 ^ 16 ↔ n < 2 ^ (4 * 4) := by omega
    have haddress : ¬ (2 ^ 152 ≤ (n : Int) ∧ (n : Int) < 2 ^ 160) := by omega
    rw [if_neg (fun hbits => hfills ((fills_iff n).1 hbits)), hmark, inferType_of_mark, if_neg hlength]
    simp only [toDigits_eq_or_iff, length_toDigits_le_iff n 4 (by decide), hboolean, hsmall, if_neg haddress]

theorem typeOfRange_ne_empty (n : Int) : typeOfRange n ≠ "" := by
  unfold typeOfRange
  split_ifs <;> decide

/-! ## Display -/

/-- **An address is shown** with all its digits. -/
theorem display_likelyAddress (n : Nat) :
    display (Numeral.hex n) (some "Likely Address") = String.ofList ('0' :: 'x' :: filledUp n) := by
  have hsome : Numeral.hex n ≠ "" := by
    intro hempty
    have hlist := congrArg String.toList hempty
    rw [hex_natCast, String.toList_append] at hlist
    cases hlist
  have hboolean : containsText "Likely Address" "Boolean" = false := by decide
  have haddress : containsText "Likely Address" "Address" = true := by decide
  rw [← mark_append_padLeft]
  simp only [display, hsome, hboolean, haddress, dropMark_hex_natCast, toSmall_toDigits, Option.getD_some, if_false,
    if_true, Bool.false_eq_true]

end Word

/-! ## Entries -/

/-- An entry has a type by the range of a number, and shows an address with all its digits. -/
structure StateEntry.ShowsByRange (e : StateEntry) (n : Int) : Prop where
  goesByRange : Word.GoesByRange e.typeName n
  isAddress : e.typeName = "Likely Address" → Word.IsAddressOf e.display n.toNat

/-- A change of a word that is typed by it leaves such an entry. -/
theorem StateChange.showsByRange {c : StateChange} {n : Nat} (hvalue : c.newValue = Numeral.hex n)
    (htype : c.typeName = some (Word.inferTypeOf n)) (snapshot : Nat) :
    (StateEntry.ofChange snapshot c).ShowsByRange n := by
  have hname : (StateEntry.ofChange snapshot c).typeName = Word.typeOfRange n := by
    simp [StateEntry.ofChange, htype, Word.inferTypeOf_eq, Word.typeOfRange_ne_empty]
  have hrange := Word.goesByRange_typeOfRange n
  refine ⟨hname ▸ hrange, fun haddress => ?_⟩
  have hdisplay : (StateEntry.ofChange snapshot c).display
      = Word.display (Numeral.hex n) (some "Likely Address") := by
    rw [← haddress, hname, ← Word.inferTypeOf_eq, ← htype, ← hvalue]
    rfl
  rw [hname, hrange.address_iff] at haddress
  rw [hdisplay, Word.display_likelyAddress]
  exact Word.isAddressOf_filledUp (by omega)

namespace History

/-- The history up to a snapshot, or the whole. -/
def asOf (h : History) (last? : Option Int) : History :=
  { h with snapshots := Projection.upTo last? h.snapshots }

/-- The state at a snapshot is the one of the history up to it. -/
theorem currentState_asOf (h : History) (last? : Option Int) :
    (h.asOf last?).currentState none = h.currentState last? := rfl

/-- The last change to a key is that of the last snapshot, if it has one. -/
theorem lastChange?_of_snapshots {h next : History} {s : Snapshot} {key : String} {c : StateChange}
    (hsnapshots : next.snapshots = h.snapshots ++ [s])
    (hlast : s.changes.reverse.find? (fun c => c.key = key) = some c) : next.lastChange? key = some (s, c) := by
  have hadded : (s.changes.map (fun c => (s, c))).reverse.find? (fun d => d.2.key = key) = some (s, c) := by
    rw [← List.map_reverse, List.find?_map]
    exact congrArg (Option.map (fun c => (s, c))) hlast
  rw [lastChange?, changes_of_snapshots hsnapshots, List.reverse_append, List.find?_append, hadded]
  rfl

end History

/-! ## Writes to bare slots -/

/-- A change is that of a write to a slot without a variable: it has the whole word, and a type by the range of
    its number. So has the entry of its key wherever it is the last change to this key. -/
structure StateChange.InferredFrom (w : StorageWrite) (c : StateChange) : Prop where
  variableName_eq : c.variableName = none
  newValue_eq : c.newValue = Numeral.hex w.value
  goesByRange : ∃ type, c.typeName = some type ∧ Word.GoesByRange type w.value
  shown : ∀ (h : History) (last? : Option Int) (s : Snapshot),
    (h.asOf last?).lastChange? (slotKey w.slotText) = some (s, c) →
    ∃ entry, (h.currentState last?).lookup (slotKey w.slotText) = some entry ∧ entry.ShowsByRange w.value

namespace StorageWrite

variable {declared : List StorageVariable} {hash : Except Fault (Option String)} {w : StorageWrite}
  {old slot : Int} {made : List StateChange}

/-- A write to a bare slot makes one change, with the type that its value suggests. -/
theorem exists_change_of_bare (hok : w.changes (Layout.variablesAt declared w.slotText) hash old = .ok made)
    (hbare : ∀ v ∈ declared, v.slot ≠ w.slot) :
    ∃ name, made = [w.change name old w.value none (Word.inferTypeOf w.value)] := by
  have hnone : Layout.variablesAt declared w.slotText = [] := by
    refine List.eq_nil_iff_forall_not_mem.2 (fun v hv => ?_)
    obtain ⟨hmem, hslot⟩ := (Layout.mem_variablesAt_hex declared w.slot v).1 hv
    exact hbare v hmem hslot
  rw [hnone] at hok
  obtain ⟨name, -, hmade⟩ := bind_eq_ok_iff.1 hok
  exact ⟨name, (Except.ok.inj hmade).symm⟩

/-- **One write** to a bare slot is typed by the range of its value. -/
theorem exists_inferred_of_bare (hok : w.changes (Layout.variablesAt declared w.slotText) hash old = .ok made)
    (hbare : ∀ v ∈ declared, v.slot ≠ w.slot) (hvalue : 0 ≤ w.value) :
    ∃ c, made = [c] ∧ c.key = StateChange.slotKey w.slotText ∧ c.InferredFrom w := by
  obtain ⟨name, rfl⟩ := exists_change_of_bare hok hbare
  obtain ⟨n, hn⟩ := Int.eq_ofNat_of_zero_le hvalue
  refine ⟨_, rfl, rfl, rfl, rfl, ⟨_, rfl, ?_⟩, ?_⟩
  · rw [hn, Word.inferTypeOf_eq]
    exact Word.goesByRange_typeOfRange n
  · intro h last? s hlast
    have hlookup := (h.asOf last?).lookup_currentState (StateChange.slotKey w.slotText)
    rw [hlast, History.currentState_asOf] at hlookup
    refine ⟨_, hlookup, ?_⟩
    rw [hn]
    exact StateChange.showsByRange rfl rfl s.id

/-- A write to another slot does not touch the key of a bare one, unless a variable is called like it. -/
theorem key_ne_slotKey (hok : w.changes (Layout.variablesAt declared w.slotText) hash old = .ok made)
    (hlabels : ∀ v ∈ declared, v.label ≠ StateChange.slotKey (Numeral.hex slot)) (hslot : w.slot ≠ slot) :
    ∀ c ∈ made, c.key ≠ StateChange.slotKey (Numeral.hex slot) := by
  have hother : StateChange.slotKey w.slotText ≠ StateChange.slotKey (Numeral.hex slot) := by
    intro hkeys
    exact hslot (Numeral.hex_injective _ _ (StateChange.slotKey_injective _ _ hkeys))
  intro c hc
  have hplace : c.slot = w.slotText := ((makes_changes hok).2 c hc).1
  rcases attributed_of_changes hok c hc with ⟨v, hv, -, hname, -⟩ | hbare
  · by_cases hempty : v.label = ""
    · -- a variable without a label is shown at the key of its slot
      rw [StateChange.key, hname]
      simp only [hempty, if_true, hplace]
      exact hother
    · rw [c.key_of_label v.label hname hempty]
      exact hlabels v hv
  · obtain ⟨name, rfl⟩ := exists_change_of_bare hok hbare
    rw [List.mem_singleton.1 hc]
    exact hother

end StorageWrite

/-! ## Recorded writes -/

namespace Records

variable {declared : List StorageVariable} {hash : Except Fault (Option String)} {carried : Int → Int}
  {recorded : List StorageWrite} {changes : List StateChange}

/-- **The last recorded write** to a bare slot makes the last change to its key. -/
theorem exists_last_inferred (hrecords : Records declared hash carried recorded changes) {slot : Int}
    (hbare : ∀ v ∈ declared, v.slot ≠ slot)
    (hlabels : ∀ v ∈ declared, v.label ≠ StateChange.slotKey (Numeral.hex slot)) :
    ∀ w ∈ StorageWrite.last? recorded slot, 0 ≤ w.value → ∃ c,
      changes.reverse.find? (fun c => c.key = StateChange.slotKey (Numeral.hex slot)) = some c
        ∧ c.InferredFrom w := by
  induction hrecords with
  | nothing =>
    intro w hw
    cases hw
  | @further recorded changes made last before hnew hmade ih =>
    by_cases hslot : last.slot = slot
    · subst hslot
      intro w hw hvalue
      rw [StorageWrite.last?_append_self] at hw
      cases hw
      obtain ⟨c, rfl, hkey, hinferred⟩ := StorageWrite.exists_inferred_of_bare hmade hbare hvalue
      refine ⟨c, ?_, hinferred⟩
      rw [List.reverse_concat]
      exact List.find?_cons_of_pos (decide_eq_true hkey)
    · have hnone : made.reverse.find? (fun c => c.key = StateChange.slotKey (Numeral.hex slot)) = none := by
        refine List.find?_eq_none.2 (fun c hc hkey => ?_)
        exact StorageWrite.key_ne_slotKey hmade hlabels hslot c (List.mem_reverse.1 hc) (of_decide_eq_true hkey)
      rw [StorageWrite.last?_append_of_ne _ _ _ (Ne.symm hslot), List.reverse_append, List.find?_append, hnone]
      exact ih

end Records

/-! ## Traces -/

namespace History

/-- What a trace tells of the values that it writes to slots without a variable: its snapshot, and the history
    that it leaves. -/
structure InfersByRange (settings : Settings) (h : History) (document : Json) (s : Snapshot) (next : History) :
    Prop where
  /-- Every recorded write makes changes of its slot and its place. In a bare slot this is one change, typed by
      the range of the value, if that has no sign. -/
  inferred : ∃ parts : List (List StateChange), s.changes = parts.flatten
    ∧ List.Forall₂ (fun w made =>
        (∀ c ∈ made, c.slot = w.slotText ∧ c.offset = w.offset ∧ c.depth = w.depth)
        ∧ ((∀ v ∈ h.layout, v.slot ≠ w.slot) → 0 ≤ w.value → ∃ c, made = [c] ∧ c.InferredFrom w))
      (StorageWrite.recorded h.words.carried (recognised settings document)) parts
  /-- The state that is left shows the last recorded value of every bare slot by its range, unless a variable is
      called like the key of the slot. -/
  shown : ∀ slot, (∀ v ∈ h.layout, v.slot ≠ slot) →
    (∀ v ∈ h.layout, v.label ≠ StateChange.slotKey (Numeral.hex slot)) →
    ∀ w, StorageWrite.last? (StorageWrite.recorded h.words.carried (recognised settings document)) slot = some w →
    0 ≤ w.value → ∃ entry,
      (next.currentState none).lookup (StateChange.slotKey (Numeral.hex slot)) = some entry
        ∧ entry.ShowsByRange w.value

variable {settings : Settings} {h : History} {document hash : Json} {s : Snapshot}

/-- **Types of bare slots.** Whatever a history holds, the values that a trace writes to slots without a variable
    are typed by their range, and the current state shows them so. -/
theorem replay_infersByRange (hok : (h.replay settings document hash).result = .ok s) :
    InfersByRange settings h document s (h.replay settings document hash).state := by
  obtain ⟨⟨name, hrecords⟩, -⟩ := records_of_replay hok
  obtain ⟨hsnapshots, -⟩ := traced_of_replay hok
  constructor
  · refine hrecords.exists_parts_of_forall (fun hmade => ⟨(StorageWrite.makes_changes hmade).2, ?_⟩)
    intro hbare hvalue
    obtain ⟨c, hc, -, hinferred⟩ := StorageWrite.exists_inferred_of_bare hmade hbare hvalue
    exact ⟨c, hc, hinferred⟩
  · intro slot hbare hlabels w hlast hvalue
    obtain ⟨c, hc, hinferred⟩ := hrecords.exists_last_inferred hbare hlabels w hlast hvalue
    have hslot : w.slot = slot := by
      have hmem := List.mem_filter.1 (List.mem_of_getLast? hlast)
      exact of_decide_eq_true hmem.2
    subst hslot
    exact hinferred.shown _ none s (lastChange?_of_snapshots hsnapshots hc)

/-- A trace that writes a small number to a bare slot, and then the smallest number that is taken for an address. -/
def shortAddressTrace : Json :=
  .obj [("structLogs", .arr [storing ["0x42", "0xffff"],
    storing ["0x42", "0x100000000000000000000000000000000000000"]])]

theorem recognised_shortAddressTrace :
    recognised Settings.standard shortAddressTrace = [⟨0x42, 0xffff, 0, 1⟩, ⟨0x42, 2 ^ 152, 0, 1⟩] := by
  rw [recognised_eq]
  decide +kernel

theorem replay_infersByRange_shortAddress :
    ∃ s, (sharing.replay Settings.standard shortAddressTrace .null).result = .ok s
      ∧ InfersByRange Settings.standard sharing shortAddressTrace s
        (sharing.replay Settings.standard shortAddressTrace .null).state
      ∧ ∃ entry, ((sharing.replay Settings.standard shortAddressTrace .null).state.currentState none).lookup
          "slot_0x42" = some entry
        ∧ entry.typeName = "Likely Address" ∧ Word.IsAddressOf entry.display (2 ^ 152) := by
  obtain ⟨s, hs⟩ := map_unit_eq_ok_iff.1 (succeeds_of_feed Settings.standard not_misplaced_sharing
    (.replay shortAddressTrace .null) ⟨none, rfl⟩)
  have hinfers := replay_infersByRange hs
  have hbare : ∀ v ∈ sharing.layout, v.slot ≠ 0x42 := by decide
  have hlabels : ∀ v ∈ sharing.layout, v.label ≠ StateChange.slotKey (Numeral.hex 0x42) := by decide
  have hlast : StorageWrite.last? (StorageWrite.recorded sharing.words.carried
      (recognised Settings.standard shortAddressTrace)) 0x42 = some ⟨0x42, 2 ^ 152, 0, 1⟩ := by
    rw [recognised_shortAddressTrace]
    rfl
  obtain ⟨entry, hentry, hshows⟩ := hinfers.shown 0x42 hbare hlabels _ hlast (by decide)
  have haddress : entry.typeName = "Likely Address" := hshows.goesByRange.address_iff.2 (by decide)
  exact ⟨s, hs, hinfers, entry, hentry, haddress, hshows.isAddress haddress⟩

end History

end EvmScope
