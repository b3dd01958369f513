import EvmScope.Proofs.Simulation.Numbers

set_option autoImplicit false

/-! # Why a call fails

An effect reads and writes only entries that it has found in the state before, so it never misses one. What
is left to fail for is a value: an argument or an entry that is no number, or a number that would become
negative. A call reports these faults, and so every failing effect is reported.

After that the entries of all changes are marked, and each change must lead back to one. A variable is
found by its label. A slot without a variable is found by its number, for which zero stands in where an
entry has none; so only the key of a slot without number is not found again. -/

namespace EvmScope

/-- A step that fails does so for a bad value. -/
def OnlyBadValues {α : Type} (step : Except Fault α) : Prop :=
  ∀ fault, step = .error fault → fault.isBadValue = true

namespace OnlyBadValues

variable {α β : Type}

theorem of_ok {step : Except Fault α} {a : α} (hok : step = .ok a) : OnlyBadValues step := by
  intro fault herror
  rw [hok] at herror
  cases herror

/-- Text that is read as a number fails for its value. -/
theorem mapError_numeral (step : Except NumeralError α) :
    OnlyBadValues (step.mapError Fault.numeral) := by
  intro fault herror
  cases step with
  | error cause =>
    cases herror
    rfl
  | ok a => cases herror

theorem bind {first : Except Fault α} {next : α → Except Fault β} (hfirst : OnlyBadValues first)
    (hnext : ∀ a, first = .ok a → OnlyBadValues (next a)) : OnlyBadValues (first >>= next) := by
  intro fault herror
  cases hmade : first with
  | error cause =>
    rw [hmade] at herror
    cases herror
    exact hfirst fault hmade
  | ok a =>
    rw [hmade] at herror
    exact hnext a hmade fault herror

end OnlyBadValues

namespace Draft

variable {d : Draft} {key operation : String}

/-! ## Values -/

theorem onlyBadValues_amountOf (amount : Json) : OnlyBadValues (amountOf amount) := by
  unfold amountOf
  split
  · exact .of_ok rfl
  · exact .of_ok rfl
  · exact .mapError_numeral _

theorem onlyBadValues_wordOf (value : Json) : OnlyBadValues (wordOf value) := by
  unfold wordOf
  split
  · exact .of_ok rfl
  · exact .of_ok rfl
  · dsimp only
    split
    · exact .of_ok rfl
    · split
      · exact .mapError_numeral _
      · exact .of_ok rfl

/-! ## Entries that are there -/

theorem onlyBadValues_numberAt (hthere : key ∈ Table.keys d.state) : OnlyBadValues (d.numberAt key) := by
  obtain ⟨entry, hentry⟩ := (Table.mem_keys_iff_exists_lookup _ _).1 hthere
  unfold numberAt
  rw [hentry]
  exact .mapError_numeral _

theorem onlyBadValues_write (hthere : key ∈ Table.keys d.state) (word operation : String) :
    OnlyBadValues (d.write key word operation) := by
  obtain ⟨entry, hentry⟩ := (Table.mem_keys_iff_exists_lookup _ _).1 hthere
  exact .of_ok (write_of_lookup hentry)

theorem onlyBadValues_writeNumber (hthere : key ∈ Table.keys d.state) (value : Int) (operation : String) :
    OnlyBadValues (d.writeNumber key value operation) := by
  unfold writeNumber
  by_cases hnegative : value < 0
  · rw [if_pos hnegative]
    intro fault herror
    cases herror
    rfl
  · rw [if_neg hnegative]
    exact onlyBadValues_write hthere _ _

theorem mem_keys_of_findMutable? (hfound : d.findMutable? = some key) : key ∈ Table.keys d.state := by
  rcases Option.or_eq_some_iff.1 hfound with hmutable | ⟨-, hhead⟩
  · exact List.mem_of_find?_eq_some hmutable
  · exact List.mem_of_head? hhead

/-! ## Effects -/

theorem onlyBadValues_transfer (d : Draft) (recipient amount : Json) :
    OnlyBadValues (d.transfer recipient amount) := by
  unfold transfer
  cases hsource : d.find? "balance" with
  | none => exact .of_ok rfl
  | some source =>
    have hthere := mem_keys_of_find? hsource
    refine (onlyBadValues_amountOf amount).bind (fun n _ => ?_)
    refine (onlyBadValues_numberAt hthere).bind (fun held _ => ?_)
    refine (onlyBadValues_writeNumber hthere _ _).bind (fun debited _ => ?_)
    by_cases habsent : (debited.state.lookup (recipient.display ++ "_balance")).isNone = true
    · rw [if_pos habsent]
      exact .of_ok rfl
    · rw [if_neg habsent]
      have htarget : recipient.display ++ "_balance" ∈ Table.keys debited.state :=
        (Table.mem_keys_iff_exists_lookup _ _).2
          (Option.ne_none_iff_exists'.1 (fun hnone => habsent (by rw [hnone]; rfl)))
      exact (onlyBadValues_numberAt htarget).bind (fun balance _ => onlyBadValues_writeNumber htarget _ _)

theorem onlyBadValues_changeSupply (d : Draft) (amount : Json) (sign : Int) (operation : String) :
    OnlyBadValues (d.changeSupply amount sign operation) := by
  unfold changeSupply
  cases hsupply : d.find? "totalSupply" with
  | none => exact .of_ok rfl
  | some supply =>
    have hthere := mem_keys_of_find? hsupply
    exact (onlyBadValues_numberAt hthere).bind (fun held _ =>
      (onlyBadValues_amountOf amount).bind (fun n _ => onlyBadValues_writeNumber hthere _ _))

theorem onlyBadValues_assign (d : Draft) (variableName : String) (value : Json) :
    OnlyBadValues (d.assign variableName value) := by
  unfold assign
  cases htarget : d.find? variableName with
  | none => exact .of_ok rfl
  | some target =>
    exact (onlyBadValues_wordOf value).bind (fun word _ =>
      onlyBadValues_write (mem_keys_of_find? htarget) _ _)

theorem onlyBadValues_countUp (d : Draft) (operation : String) : OnlyBadValues (d.countUp operation) := by
  unfold countUp
  cases htarget : d.findMutable? with
  | none => exact .of_ok rfl
  | some target =>
    have hthere := mem_keys_of_findMutable? htarget
    exact (onlyBadValues_numberAt hthere).bind (fun held _ => onlyBadValues_writeNumber hthere _ _)

end Draft

/-- **Every effect** that fails does so for a bad value. -/
theorem Effect.onlyBadValues_apply (effect : Effect) (d : Draft) : OnlyBadValues (effect.apply d) := by
  cases effect with
  | transfer recipient amount => exact Draft.onlyBadValues_transfer d recipient amount
  | changeSupply amount sign operation => exact Draft.onlyBadValues_changeSupply d amount sign operation
  | assign variableName value => exact Draft.onlyBadValues_assign d variableName value
  | countUp operation => exact Draft.onlyBadValues_countUp d operation

/-! ## Changes that lead back -/

namespace Projection

/-- Keys that begin like that of a slot are those of the slots of their entries. -/
def SlotKeysOwn (state : Projection) : Prop :=
  ∀ key entry, state.lookup key = some entry → beginsWith key "slot_" = true →
    key = StateChange.slotKey entry.slot

end Projection

namespace Draft

variable {d next : Draft} {key operation : String}

theorem slotKeysOwn_of_write {word : String} (hok : d.write key word operation = .ok next)
    (hown : d.state.SlotKeysOwn) : next.state.SlotKeysOwn := by
  obtain ⟨entry, hentry, hstate, -⟩ := write_ok hok
  intro other e he hbegins
  rw [hstate] at he
  by_cases hother : other = key
  · subst hother
    rw [Table.lookup_put_self] at he
    cases he
    exact hown other entry hentry hbegins
  · rw [Table.lookup_put_of_ne _ _ _ _ hother] at he
    exact hown other e he hbegins

/-- The changes of writes have the keys that are written to, none of which is an empty label or an empty
    slot's. -/
theorem Writes.key_mem {start : Projection} {keys : List String} (hwrites : Writes ⟨start, []⟩ keys d)
    (hown : start.SlotKeysOwn) (hkeys : ∀ key ∈ keys, key ≠ "" ∧ key ≠ "slot_") :
    d.state.SlotKeysOwn ∧ ∀ c ∈ d.changes, c.key ∈ keys := by
  induction hwrites with
  | none => exact ⟨hown, fun c hc => absurd hc List.not_mem_nil⟩
  | @more keys before after key word operation _ hwrite ih =>
    obtain ⟨hbefore, hchanged⟩ := ih (fun other hother => hkeys other (List.mem_append_left _ hother))
    refine ⟨slotKeysOwn_of_write hwrite hbefore, fun c hc => ?_⟩
    obtain ⟨entry, hentry, -, hchanges⟩ := write_ok hwrite
    rw [hchanges] at hc
    rcases List.mem_cons.1 hc with rfl | hc
    · obtain ⟨hempty, hbare⟩ := hkeys key (List.mem_append_right _ List.mem_cons_self)
      rw [key_changeOf hempty]
      · exact List.mem_append_right _ List.mem_cons_self
      · intro hbegins
        have hkey := hbefore key entry hentry hbegins
        refine ⟨fun hslot => hbare ?_, hkey⟩
        rw [hkey, hslot]
        rfl
    · exact List.mem_append_left _ (hchanged c hc)

theorem Writes.mem_keys {start : Projection} {keys : List String} (hwrites : Writes ⟨start, []⟩ keys d) :
    ∀ key ∈ keys, key ∈ Table.keys start := by
  induction hwrites with
  | none => exact fun key hkey => absurd hkey List.not_mem_nil
  | more hbefore hwrite ih =>
    intro key hkey
    rcases List.mem_append.1 hkey with hkey | hkey
    · exact ih key hkey
    · obtain ⟨entry, hentry, -, -⟩ := write_ok hwrite
      rw [List.mem_singleton.1 hkey, ← hbefore.keys_eq.1]
      exact (Table.mem_keys_iff_exists_lookup _ _).2 ⟨entry, hentry⟩

end Draft

/-- The changes of such writes lead back to entries that can be marked. -/
theorem Simulation.exists_stamp_ok {start : Projection} {keys : List String} {draft : Draft}
    (hwrites : Draft.Writes ⟨start, []⟩ keys draft) (hown : start.SlotKeysOwn)
    (hkeys : ∀ key ∈ keys, key ≠ "" ∧ key ≠ "slot_") (snapshot : Nat) :
    ∃ stamped, stamp snapshot draft.state draft.changes.reverse = .ok stamped := by
  obtain ⟨-, hchanged⟩ := hwrites.key_mem hown hkeys
  obtain ⟨stamped, hstamp, -⟩ := stamp_ok snapshot draft.changes.reverse draft.state (fun c hc => by
    rw [hwrites.keys_eq.1]
    exact hwrites.mem_keys _ (hchanged c (List.mem_reverse.1 hc)))
  exact ⟨stamped, hstamp⟩

end EvmScope
