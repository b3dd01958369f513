import EvmScope.Proofs.Traversal
import EvmScope.Simulation.Effect

set_option autoImplicit false

/-! # A draft is made by writes

Whatever a call does to a draft, it does by writing words to entries, one after the other.
`Draft.Writes` is this relation with the keys that were written, and `writes_of_apply` says it of every
effect. What one write keeps is so kept by all effects, and nobody needs to know which effects there
are. -/

namespace EvmScope

namespace Draft

/-! ## One write -/

/-- The entry that a write leaves behind. -/
def written (entry : StateEntry) (word operation : String) : StateEntry :=
  { entry with
    value := word
    display := Word.display word (some entry.typeName)
    previous := entry.value
    operation := operation }

/-- The change that a write to an entry records. -/
def changeOf (entry : StateEntry) (key word operation : String) : StateChange where
  slot := if entry.slot = "" then "0x0" else entry.slot
  oldValue := entry.value
  newValue := word
  variableName := if beginsWith key "slot_" then none else some key
  typeName := some entry.typeName
  operation := operation
  offset := 0
  depth := 0
  transactionHash := none

theorem write_ok {d next : Draft} {key word operation : String}
    (hok : d.write key word operation = .ok next) :
    ∃ entry, d.state.lookup key = some entry
      ∧ next.state = Table.put d.state key (written entry word operation)
      ∧ next.changes = changeOf entry key word operation :: d.changes := by
  unfold write at hok
  cases hentry : d.state.lookup key with
  | none =>
    rw [hentry] at hok
    cases hok
  | some entry =>
    rw [hentry] at hok
    cases hok
    exact ⟨entry, rfl, rfl, rfl⟩

/-! ## Many writes -/

/-- A draft becomes another one by writes to some keys in their order. -/
inductive Writes (d : Draft) : List String → Draft → Prop
  | none : Writes d [] d
  | more {keys : List String} {before after : Draft} {key word operation : String}
    (hbefore : Writes d keys before) (hwrite : before.write key word operation = .ok after) :
    Writes d (keys ++ [key]) after

theorem Writes.of_write {d next : Draft} {key word operation : String}
    (hok : d.write key word operation = .ok next) : Writes d [key] next :=
  .more .none hok

/-- A number is written as a word. -/
theorem write_of_writeNumber {d next : Draft} {key operation : String} {value : Int}
    (hok : d.writeNumber key value operation = .ok next) :
    d.write key (Numeral.hex value) operation = .ok next := by
  unfold writeNumber at hok
  by_cases hnegative : value < 0
  · rw [if_pos hnegative] at hok
    cases hok
  · rwa [if_neg hnegative] at hok

theorem writes_of_transfer {d next : Draft} {recipient amount : Json}
    (hok : d.transfer recipient amount = .ok next) : ∃ keys, Writes d keys next := by
  unfold transfer at hok
  cases hsource : d.find? "balance" with
  | none =>
    rw [hsource] at hok
    cases hok
    exact ⟨[], .none⟩
  | some source =>
    rw [hsource] at hok
    obtain ⟨n, -, hok⟩ := bind_eq_ok_iff.1 hok
    obtain ⟨held, -, hok⟩ := bind_eq_ok_iff.1 hok
    obtain ⟨debited, hdebit, hok⟩ := bind_eq_ok_iff.1 hok
    have hfirst : Writes d [source] debited := .of_write (write_of_writeNumber hdebit)
    by_cases habsent : (debited.state.lookup (recipient.display ++ "_balance")).isNone = true
    · rw [if_pos habsent] at hok
      cases hok
      exact ⟨[source], hfirst⟩
    · rw [if_neg habsent] at hok
      obtain ⟨balance, -, hcredit⟩ := bind_eq_ok_iff.1 hok
      exact ⟨_, .more hfirst (write_of_writeNumber hcredit)⟩

theorem writes_of_changeSupply {d next : Draft} {amount : Json} {sign : Int} {operation : String}
    (hok : d.changeSupply amount sign operation = .ok next) : ∃ keys, Writes d keys next := by
  unfold changeSupply at hok
  cases hsupply : d.find? "totalSupply" with
  | none =>
    rw [hsupply] at hok
    cases hok
    exact ⟨[], .none⟩
  | some supply =>
    rw [hsupply] at hok
    obtain ⟨held, -, hok⟩ := bind_eq_ok_iff.1 hok
    obtain ⟨n, -, hok⟩ := bind_eq_ok_iff.1 hok
    exact ⟨[supply], .of_write (write_of_writeNumber hok)⟩

theorem writes_of_assign {d next : Draft} {variableName : String} {value : Json}
    (hok : d.assign variableName value = .ok next) : ∃ keys, Writes d keys next := by
  unfold assign at hok
  cases htarget : d.find? variableName with
  | none =>
    rw [htarget] at hok
    cases hok
    exact ⟨[], .none⟩
  | some target =>
    rw [htarget] at hok
    obtain ⟨word, -, hok⟩ := bind_eq_ok_iff.1 hok
    exact ⟨[target], .of_write hok⟩

theorem writes_of_countUp {d next : Draft} {operation : String}
    (hok : d.countUp operation = .ok next) : ∃ keys, Writes d keys next := by
  unfold countUp at hok
  cases htarget : d.findMutable? with
  | none =>
    rw [htarget] at hok
    cases hok
    exact ⟨[], .none⟩
  | some target =>
    rw [htarget] at hok
    obtain ⟨held, -, hok⟩ := bind_eq_ok_iff.1 hok
    exact ⟨[target], .of_write (write_of_writeNumber hok)⟩

theorem writes_of_applyToFirst {d next : Draft} {name small : String} {first : Json}
    (hok : apply.applyToFirst d name small first = .ok next) : ∃ keys, Writes d keys next := by
  unfold apply.applyToFirst at hok
  split at hok
  · exact writes_of_changeSupply hok
  · split at hok
    · exact writes_of_changeSupply hok
    · split at hok
      · exact writes_of_assign hok
      · exact writes_of_countUp hok

/-- **Every effect** is made of writes. -/
theorem writes_of_apply {d next : Draft} {name : String} {values : List Json}
    (hok : d.apply name values = .ok next) : ∃ keys, Writes d keys next := by
  match values with
  | [] => exact writes_of_countUp hok
  | [first] => exact writes_of_applyToFirst hok
  | first :: second :: rest =>
    dsimp only [apply] at hok
    split at hok
    · exact writes_of_transfer hok
    · exact writes_of_applyToFirst hok

end Draft

end EvmScope
