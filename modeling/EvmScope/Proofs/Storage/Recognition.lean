import EvmScope.Proofs.Storage.NormalForm
import EvmScope.Storage.Replay

set_option autoImplicit false

/-! # Recognised writes

Which entries of a trace are recognised as storage writes is said here by the entries alone: by the
operation, by the two words on top of the stack, and by the integers that these denote
(`TraceEntry.Stores`). `StorageWrite.recognised?` is the write of such an entry, whoever reads it.

A replay has a reader of its own. That it reads the recognised write and no other is `recognised?_eq`,
which is also the way to evaluate `recognised?` on entries that are given. -/

namespace EvmScope

/-! ## Stored values -/

/-- An entry stores a value in a slot: it is a storage write, and the two words on top of its stack, of
    which the top one stands last, denote them. -/
structure TraceEntry.Stores (slotOnTop : Bool) (e : TraceEntry) (slot value : Int) : Prop where
  op_eq : e.op = "SSTORE"
  exists_words : ∃ (below : List String) (second top : String), e.stack = below ++ [second, top]
    ∧ Word.Denotes (.str (if slotOnTop then top else second)) slot
    ∧ Word.Denotes (.str (if slotOnTop then second else top)) value

theorem TraceEntry.Stores.unique {slotOnTop : Bool} {e : TraceEntry} {slot value slot' value' : Int}
    (hstores : e.Stores slotOnTop slot value) (hstores' : e.Stores slotOnTop slot' value') :
    slot = slot' ∧ value = value' := by
  obtain ⟨below, second, top, hstack, hslot, hvalue⟩ := hstores.exists_words
  obtain ⟨below', second', top', hstack', hslot', hvalue'⟩ := hstores'.exists_words
  rw [hstack] at hstack'
  obtain ⟨-, htop⟩ := List.append_inj' hstack' rfl
  cases htop
  exact ⟨hslot.unique hslot', hvalue.unique hvalue'⟩

namespace StorageWrite

open Classical in
/-- The write of an entry that stores a value in a slot; it stands where the entry stands. -/
noncomputable def recognised? (slotOnTop : Bool) (e : TraceEntry) : Option StorageWrite :=
  if h : ∃ numbers : Int × Int, e.Stores slotOnTop numbers.1 numbers.2 then
    some ⟨h.choose.1, h.choose.2, e.pc, e.depth⟩
  else none

/-- **The write of an entry** has the numbers that its words denote. -/
theorem recognised?_eq_some_iff {slotOnTop : Bool} {e : TraceEntry} {w : StorageWrite} :
    recognised? slotOnTop e = some w
      ↔ e.Stores slotOnTop w.slot w.value ∧ w.offset = e.pc ∧ w.depth = e.depth := by
  unfold recognised?
  constructor
  · intro hsome
    split at hsome
    · next hstores =>
      cases hsome
      exact ⟨hstores.choose_spec, rfl, rfl⟩
    · cases hsome
  · obtain ⟨slot, value, offset, depth⟩ := w
    rintro ⟨hstores, rfl, rfl⟩
    have hexists : ∃ numbers : Int × Int, e.Stores slotOnTop numbers.1 numbers.2 := ⟨(slot, value), hstores⟩
    obtain ⟨hslot, hvalue⟩ := hexists.choose_spec.unique hstores
    rw [dif_pos hexists, hslot, hvalue]

theorem op_eq_of_recognised? {slotOnTop : Bool} {e : TraceEntry} {w : StorageWrite}
    (hsome : recognised? slotOnTop e = some w) : e.op = "SSTORE" :=
  (recognised?_eq_some_iff.1 hsome).1.op_eq

/-! ## The reader of a replay -/

/-- What a replay reads off an entry: nothing, unless it is a storage write. -/
def ofEntry? (slotOnTop : Bool) (e : TraceEntry) : Option StorageWrite :=
  if e.op = "SSTORE" then ofStep? slotOnTop e else none

/-- The operands are the two words on top. -/
theorem operands?_eq_some_iff {slotOnTop : Bool} {stack : List String} {slotWord valueWord : String} :
    operands? slotOnTop stack = some (slotWord, valueWord)
      ↔ ∃ (below : List String) (second top : String), stack = below ++ [second, top]
        ∧ (if slotOnTop then top else second) = slotWord
        ∧ (if slotOnTop then second else top) = valueWord := by
  have hpair : ∀ second top : String,
      (if slotOnTop then (top, second) else (second, top)) = (slotWord, valueWord)
        ↔ (if slotOnTop then top else second) = slotWord
          ∧ (if slotOnTop then second else top) = valueWord := by
    intro second top
    cases slotOnTop with
    | true => exact iff_of_eq (Prod.mk.injEq _ _ _ _)
    | false => exact iff_of_eq (Prod.mk.injEq _ _ _ _)
  unfold operands?
  constructor
  · intro hwords
    split at hwords
    · next top second rest hstack =>
      refine ⟨rest.reverse, second, top, ?_, (hpair second top).1 (Option.some.inj hwords)⟩
      rw [← List.reverse_reverse stack, hstack, List.reverse_cons, List.reverse_cons, List.append_assoc]
      rfl
    · cases hwords
  · rintro ⟨below, second, top, rfl, hwords⟩
    rw [List.reverse_append]
    exact congrArg some ((hpair second top).2 hwords)

theorem toOption_ofText_eq_some_iff {text : String} {n : Int} :
    (Word.ofText text).toOption = some n ↔ Word.Denotes (.str text) n := by
  rw [← Word.ofText_eq_ok_iff]
  cases Word.ofText text with
  | error fault => simp [Except.toOption]
  | ok m => simp [Except.toOption]

/-- An entry stores what its operands denote. -/
theorem stores_iff {slotOnTop : Bool} {e : TraceEntry} {slot value : Int} :
    e.Stores slotOnTop slot value ↔ e.op = "SSTORE" ∧ ∃ slotWord valueWord,
      operands? slotOnTop e.stack = some (slotWord, valueWord)
        ∧ Word.Denotes (.str slotWord) slot ∧ Word.Denotes (.str valueWord) value := by
  constructor
  · rintro ⟨hop, below, second, top, hstack, hslot, hvalue⟩
    exact ⟨hop, _, _, operands?_eq_some_iff.2 ⟨below, second, top, hstack, rfl, rfl⟩, hslot, hvalue⟩
  · rintro ⟨hop, slotWord, valueWord, hwords, hslot, hvalue⟩
    obtain ⟨below, second, top, hstack, rfl, rfl⟩ := operands?_eq_some_iff.1 hwords
    exact ⟨hop, below, second, top, hstack, hslot, hvalue⟩

theorem ofEntry?_eq_some_iff {slotOnTop : Bool} {e : TraceEntry} {w : StorageWrite} :
    ofEntry? slotOnTop e = some w
      ↔ e.Stores slotOnTop w.slot w.value ∧ w.offset = e.pc ∧ w.depth = e.depth := by
  rw [stores_iff]
  unfold ofEntry? ofStep?
  constructor
  · intro hsome
    by_cases hop : e.op = "SSTORE"
    · rw [if_pos hop] at hsome
      obtain ⟨⟨slotWord, valueWord⟩, hwords, hsome⟩ := Option.bind_eq_some_iff.1 hsome
      obtain ⟨slot, hslot, hsome⟩ := Option.bind_eq_some_iff.1 hsome
      obtain ⟨value, hvalue, hsome⟩ := Option.bind_eq_some_iff.1 hsome
      cases hsome
      exact ⟨⟨hop, slotWord, valueWord, hwords, toOption_ofText_eq_some_iff.1 hslot,
        toOption_ofText_eq_some_iff.1 hvalue⟩, rfl, rfl⟩
    · rw [if_neg hop] at hsome
      cases hsome
  · rintro ⟨⟨hop, slotWord, valueWord, hwords, hslot, hvalue⟩, hoffset, hdepth⟩
    obtain ⟨slot, value, offset, depth⟩ := w
    cases hoffset
    cases hdepth
    simp only [if_pos hop, hwords, Option.bind_eq_bind, Option.bind_some,
      toOption_ofText_eq_some_iff.2 hslot, toOption_ofText_eq_some_iff.2 hvalue]
    rfl

/-- **A replay reads the recognised writes.** -/
theorem recognised?_eq (slotOnTop : Bool) : recognised? slotOnTop = ofEntry? slotOnTop := by
  funext e
  refine Option.ext (fun w => ?_)
  rw [recognised?_eq_some_iff, ofEntry?_eq_some_iff]

end StorageWrite

end EvmScope
