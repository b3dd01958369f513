import EvmScope.Proofs.Text.Numeral
import EvmScope.Storage.Layout
import Mathlib.Algebra.Ring.Int.Defs
import Mathlib.Data.List.Nodup

set_option autoImplicit false

/-! # What variables show of their slots

A variable that has its slot to itself shows the whole word, also if it is declared smaller; one that
shares its slot shows its own bytes. `Layout.shown` is this value as a total function, which the
extraction of bytes computes wherever offsets are not negative. `Layout.Proper` collects what makes the
variables of a layout tell apart. -/

namespace EvmScope

namespace Layout

/-- The layouts whose variables can be replayed and be told apart by their labels. -/
structure Proper (declared : List StorageVariable) : Prop where
  offset_nonneg : ∀ v ∈ declared, 0 ≤ v.offset
  labels_nodup : (declared.map StorageVariable.label).Nodup
  label_ne_empty : ∀ v ∈ declared, v.label ≠ ""
  /-- No label looks like the key of a bare slot. -/
  label_not_slotKey : ∀ v ∈ declared, beginsWith v.label "slot_" = false

/-- What a variable shows of the word in its slot: all of it if no other variable has the slot, else
    its bytes. -/
def shown (declared : List StorageVariable) (v : StorageVariable) (word : Int) : Int :=
  if declared.countP (fun other => other.slot = v.slot) = 1 then word
  else (word >>> (8 * v.offset).toNat) % 2 ^ (8 * v.byteCount).toNat

/-! ## Variables by slot -/

theorem variablesAt_hex (declared : List StorageVariable) (slot : Int) :
    variablesAt declared (Numeral.hex slot) = declared.filter (fun v => v.slot = slot) := by
  apply List.filter_congr
  intro v _
  have hiff : Numeral.hex v.slot = Numeral.hex slot ↔ v.slot = slot := by
    constructor
    · exact Numeral.hex_injective v.slot slot
    · intro h
      rw [h]
  simp only [StorageVariable.slotText, beq_eq_decide, hiff]

theorem mem_variablesAt_hex (declared : List StorageVariable) (slot : Int) (v : StorageVariable) :
    v ∈ variablesAt declared (Numeral.hex slot) ↔ v ∈ declared ∧ v.slot = slot := by
  rw [variablesAt_hex, List.mem_filter, decide_eq_true_eq]

/-- Two variables with one label are one. -/
theorem Proper.eq_of_label_eq {declared : List StorageVariable} (hproper : Proper declared)
    {v other : StorageVariable} (hv : v ∈ declared) (hother : other ∈ declared)
    (hlabel : v.label = other.label) : v = other :=
  List.inj_on_of_nodup_map hproper.labels_nodup hv hother hlabel

/-! ## Bytes -/

/-- A variable alone in its slot shows the word. -/
theorem shown_of_alone {declared : List StorageVariable} {v : StorageVariable} {slot : Int}
    (halone : variablesAt declared (Numeral.hex slot) = [v]) (word : Int) :
    shown declared v word = word := by
  have hslot : v.slot = slot := by
    have hmem : v ∈ variablesAt declared (Numeral.hex slot) := by
      rw [halone]
      exact List.mem_singleton_self v
    exact ((mem_variablesAt_hex declared slot v).1 hmem).2
  have hcount : declared.countP (fun other => other.slot = v.slot) = 1 := by
    rw [List.countP_eq_length_filter, hslot, ← variablesAt_hex, halone]
    rfl
  rw [shown, if_pos hcount]

/-- A variable that shares its slot shows what is extracted for it. -/
theorem extract_eq_shown {declared : List StorageVariable} {v : StorageVariable} {slot : Int}
    (hmem : v ∈ variablesAt declared (Numeral.hex slot))
    (hshared : (variablesAt declared (Numeral.hex slot)).length ≠ 1) (hoffset : 0 ≤ v.offset)
    (word : Int) : v.extract word = .ok (shown declared v word) := by
  have hslot : v.slot = slot := ((mem_variablesAt_hex declared slot v).1 hmem).2
  have hcount : declared.countP (fun other => other.slot = v.slot) ≠ 1 := by
    rw [List.countP_eq_length_filter, hslot, ← variablesAt_hex]
    exact hshared
  have hnonneg : ¬ v.offset < 0 := by omega
  rw [StorageVariable.extract, if_neg hnonneg, shown, if_neg hcount, Int.mul_comm 8,
    Int.mul_comm 8]
  exact congrArg (fun modulus => Except.ok (_ % modulus)) (Int.natCast_pow 2 _)

end Layout

end EvmScope
