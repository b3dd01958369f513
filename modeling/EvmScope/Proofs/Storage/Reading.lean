import EvmScope.Proofs.Traversal
import EvmScope.Storage.Layout

set_option autoImplicit false

/-! # What is read of a layout document

A layout document may be any value. Its entries are those that it lists (`listed`), and an entry gives a
variable if it has a label and its slot, size and offset are numbers (`usable?`); all others are passed
over. There are three faults. A number or `true` in place of the list cannot be gone through. An entry
breaks the reading if the description of its type has no fields, or if its size or its offset is infinite
(`Breaks`). Without these a document is read, and the variables are those of its entries in their
order. -/

namespace EvmScope.Layout

/-! ## The parts of a document -/

/-- The entries that a layout document lists; none where no list is given. -/
def listed : Json → List Json
  | .arr items => items
  | .obj fields =>
    match Json.fieldOrNull "storage" fields with
    | .arr items => items
    | _ => []
  | _ => []

/-- The descriptions of the types by their identifiers; a bare list has none. -/
def typeTable (document : Json) : List (String × Json) :=
  typesOf (document.get "types")

/-- A document with a number or `true` in place of its list. -/
def HasNoList (document : Json) : Prop :=
  (document.get "storage").isPresent = true ∧ (∀ items, document.get "storage" ≠ .arr items)
    ∧ (∀ fields, document.get "storage" ≠ .obj fields) ∧ ∀ text, document.get "storage" ≠ .str text

/-- The integer of a number or of decimal text, a fraction cut off. -/
def number? : Json → Option Int
  | .float value => value.truncate?
  | .str text => Numeral.read? .decimal text
  | value => value.int?

/-- The description of the type of an entry, null if there is none. -/
def descriptionOf (types fields : List (String × Json)) : Json :=
  Json.fieldOrNull (((fields.lookup "type").getD (.str "")).display) types

/-- The value that a description gives for the number of bytes, those of a whole slot if it gives
    none. -/
def sizeValue : Json → Json
  | .obj fields => (fields.lookup "numberOfBytes").getD (.int 32)
  | _ => .int 32

/-- The value that an entry gives for its offset, zero if it gives none. -/
def offsetValue (fields : List (String × Json)) : Json :=
  (Json.fieldOrNull "offset" fields).orElse (.int 0)

/-- The variable of an entry whose slot, size and offset are known. -/
def variableOf (types fields : List (String × Json)) (label : Json) (slot size offset : Int) :
    StorageVariable :=
  let typeId := ((fields.lookup "type").getD (.str "")).display
  ⟨slot, label.display, typeId, typeLabel typeId (descriptionOf types fields), offset,
    min (max size 1) 32⟩

/-- The variable of an entry, if it has a label and a usable slot, size and offset. -/
def usable? (types : List (String × Json)) : Json → Option StorageVariable
  | .obj fields => do
    let label ← fields.lookup "label"
    let slot ← slot? fields
    let size ← number? (sizeValue (descriptionOf types fields))
    let offset ← number? (offsetValue fields)
    return variableOf types fields label slot size offset
  | _ => none

/-! ## Entries that break the reading -/

/-- An infinite number. -/
def IsInfinite (value : Json) : Prop :=
  ∃ negative, value = .float (.infinite negative)

/-- A description of a type that is there and has no fields. -/
def IsNoDescription (type : Json) : Prop :=
  type.isPresent = true ∧ ∀ fields, type ≠ .obj fields

/-- An entry that breaks the reading: it has a label and a slot, and either its type is described by
    something without fields, or its size is infinite, or its size is a number and its offset is
    infinite. -/
def Breaks (types : List (String × Json)) : Json → Prop
  | .obj fields =>
    fields.lookup "label" ≠ none ∧ slot? fields ≠ none
      ∧ (IsNoDescription (descriptionOf types fields)
        ∨ IsInfinite (sizeValue (descriptionOf types fields))
        ∨ number? (sizeValue (descriptionOf types fields)) ≠ none ∧ IsInfinite (offsetValue fields))
  | _ => False

/-! ## Numbers -/

theorem integer?_of_infinite {value : Json} (hvalue : IsInfinite value) :
    integer? value = .error .notFinite := by
  obtain ⟨negative, rfl⟩ := hvalue
  rfl

theorem integer?_of_finite {value : Json} (hvalue : ¬ IsInfinite value) :
    integer? value = .ok (number? value) := by
  cases value with
  | float x =>
    cases x with
    | infinite negative => exact absurd ⟨negative, rfl⟩ hvalue
    | finite negative mantissa exponent => rfl
    | nan => rfl
  | _ => rfl

theorem size?_of_noDescription {type : Json} (htype : IsNoDescription type) :
    size? type = .error .noFields := by
  obtain ⟨hpresent, hfields⟩ := htype
  cases type with
  | obj fields => exact absurd rfl (hfields fields)
  | _ => simp [size?, hpresent]

/-- Without a description the size is that of a whole slot. -/
theorem size?_of_description {type : Json} (htype : ¬ IsNoDescription type) :
    size? type = integer? (sizeValue type) := by
  by_cases hpresent : type.isPresent = true
  · cases type with
    | obj fields => simp [size?, sizeValue, hpresent]
    | _ => exact absurd ⟨hpresent, by simp⟩ htype
  · have hwhole : integer? (sizeValue type) = .ok (some 32) := by
      cases type with
      | obj fields =>
        cases fields with
        | nil => rfl
        | cons field rest => exact absurd rfl hpresent
      | _ => rfl
    simp [size?, hpresent, hwhole]

/-! ## Entries -/

section Entries

variable {types : List (String × Json)}

/-- Of an entry with a label and a slot the size is read first, and the offset only if there is a
    size. -/
theorem ofItem?_of_slot {fields : List (String × Json)} {label : Json} {slot : Int}
    (hlabel : fields.lookup "label" = some label) (hslot : slot? fields = some slot) :
    ofItem? types (.obj fields)
      = (match size? (descriptionOf types fields) with
        | .error fault => .error fault
        | .ok none => .ok none
        | .ok (some size) =>
          (integer? (offsetValue fields)).map (Option.map (variableOf types fields label slot size)) :
        Except Fault (Option StorageVariable)) := by
  simp only [ofItem?, hlabel, member?, hslot]
  rfl

theorem ofItem?_of_sound {item : Json} (hsound : ¬ Breaks types item) :
    ofItem? types item = .ok (usable? types item) := by
  cases item with
  | obj fields =>
    cases hlabel : fields.lookup "label" with
    | none => simp [ofItem?, usable?, hlabel]
    | some label =>
      cases hslot : slot? fields with
      | none => simp [ofItem?, member?, usable?, hlabel, hslot]
      | some slot =>
        simp only [Breaks, hlabel, hslot, ne_eq, reduceCtorEq, not_false_eq_true, true_and, not_or,
          not_and] at hsound
        obtain ⟨hdescription, hsize, hoffset⟩ := hsound
        rw [ofItem?_of_slot hlabel hslot, size?_of_description hdescription,
          integer?_of_finite hsize]
        cases hnumber : number? (sizeValue (descriptionOf types fields)) with
        | none => simp [usable?, hlabel, hslot, hnumber]
        | some size =>
          have hread := integer?_of_finite (hoffset (by simp [hnumber]))
          simp only [hread, usable?, hlabel, hslot, hnumber, Except.map, Option.bind_eq_bind,
            Option.bind_some]
          cases number? (offsetValue fields) with
          | none => rfl
          | some offset => rfl
  | _ => rfl

theorem exists_fault_of_breaks {item : Json} (hbreaks : Breaks types item) :
    ∃ fault, ofItem? types item = .error fault := by
  cases item with
  | obj fields =>
    obtain ⟨hlabel, hslot, hwhy⟩ := hbreaks
    obtain ⟨label, hlabel⟩ := Option.ne_none_iff_exists'.1 hlabel
    obtain ⟨slot, hslot⟩ := Option.ne_none_iff_exists'.1 hslot
    rw [ofItem?_of_slot hlabel hslot]
    by_cases hdescription : IsNoDescription (descriptionOf types fields)
    · rw [size?_of_noDescription hdescription]
      exact ⟨_, rfl⟩
    · rw [size?_of_description hdescription]
      by_cases hsize : IsInfinite (sizeValue (descriptionOf types fields))
      · rw [integer?_of_infinite hsize]
        exact ⟨_, rfl⟩
      · -- what is left is an infinite offset behind a size
        obtain ⟨hnumber, hoffset⟩ := (hwhy.resolve_left hdescription).resolve_left hsize
        obtain ⟨size, hnumber⟩ := Option.ne_none_iff_exists'.1 hnumber
        rw [integer?_of_finite hsize, hnumber, integer?_of_infinite hoffset]
        exact ⟨_, rfl⟩
  | _ => exact hbreaks.elim

theorem ofEntries_eq_ok_iff (items : List Json) (declared : List StorageVariable) :
    ofEntries types items = .ok declared
      ↔ (∀ item ∈ items, ¬ Breaks types item) ∧ declared = items.filterMap (usable? types) := by
  by_cases hsound : ∀ item ∈ items, ¬ Breaks types item
  · have hread : items.mapM (ofItem? types) = .ok (items.map (usable? types)) :=
      mapM_eq_ok_map (fun item hitem => ofItem?_of_sound (hsound item hitem))
    rw [ofEntries, hread]
    simp only [Except.map, List.filterMap_map, Function.id_comp, Except.ok.injEq]
    constructor
    · rintro rfl
      exact ⟨hsound, rfl⟩
    · rintro ⟨-, rfl⟩
      rfl
  · constructor
    · -- a broken entry makes the traversal fail
      intro hok
      refine absurd ?_ hsound
      intro item hitem hbreaks
      obtain ⟨fault, hfault⟩ := exists_fault_of_breaks hbreaks
      rw [ofEntries] at hok
      cases hread : items.mapM (ofItem? types) with
      | error other =>
        rw [hread] at hok
        cases hok
      | ok found =>
        obtain ⟨b, hb⟩ := (exists_mapM_eq_ok_iff (ofItem? types) items).1 ⟨found, hread⟩ item hitem
        rw [hfault] at hb
        cases hb
    · rintro ⟨hall, -⟩
      exact absurd hall hsound

end Entries

/-! ## Documents -/

/-- **What is read of a layout document.** It is read unless it has no list or an entry that breaks the
    reading, and its variables are those of its usable entries in their order. -/
theorem read_eq_ok_iff (document : Json) (declared : List StorageVariable) :
    read document = .ok declared
      ↔ ¬ HasNoList document ∧ (∀ item ∈ listed document, ¬ Breaks (typeTable document) item)
        ∧ declared = (listed document).filterMap (usable? (typeTable document)) := by
  have hnil : [] = declared ↔ declared = [] := eq_comm
  cases document with
  | arr items =>
    have hlist : ¬ HasNoList (.arr items) := by simp [HasNoList, Json.get, Json.isPresent]
    rw [read, ofEntries_eq_ok_iff]
    exact ⟨fun hread => ⟨hlist, hread⟩, fun hread => hread.2⟩
  | obj fields =>
    have hget : Json.get (.obj fields) "storage" = Json.fieldOrNull "storage" fields := rfl
    have htypes : typeTable (.obj fields) = typesOf (Json.fieldOrNull "types" fields) := rfl
    rw [HasNoList, hget, htypes, read, listed]
    cases Json.fieldOrNull "storage" fields with
    | arr items => simp [ofEntries_eq_ok_iff]
    | str text => simp [hnil]
    | obj entries => simp [hnil]
    | null => simp [Json.isPresent, hnil]
    | bool value => cases value <;> simp [Json.isPresent, hnil]
    | int value => by_cases hzero : value = 0 <;> simp [Json.isPresent, hzero, hnil]
    | float value => cases hzero : value.isZero <;> simp [Json.isPresent, hzero, hnil]
  | _ => simp [read, listed, HasNoList, Json.get, Json.isPresent, hnil]

end EvmScope.Layout
