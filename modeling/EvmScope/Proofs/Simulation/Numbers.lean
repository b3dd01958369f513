import EvmScope.Proofs.Simulation.Agreement
import EvmScope.Proofs.Simulation.Setter

set_option autoImplicit false

/-! # The numbers that a call leaves

A state holds numbers by their written forms. An effect reads some of them, works out others and writes
those, and a transfer reads again what it has just written. None of this shows in the numbers: written
forms are read back, so `Projection.number?` sees an effect as arithmetic on integers without bounds.
`Effect.leaves?` is this arithmetic, entry by entry, and `number?_of_run` says it of a whole call.

The name of a function and its arguments settle which effect a call has. `Effect` makes this choice first
and applies the effect afterwards; `Effect.apply_ofCall` says that this comes to the same. -/

namespace EvmScope

/-! ## Effects -/

/-- The effects that a call can have. -/
inductive Effect
  | transfer (recipient amount : Json)
  | changeSupply (amount : Json) (sign : Int) (operation : String)
  | assign (variableName : String) (value : Json)
  | countUp (operation : String)

namespace Effect

/-- The effect of a call that is no transfer and has an argument. -/
def ofFirst (name : String) (first : Json) : Effect :=
  if containsText (toSmall name) "mint" then .changeSupply first 1 "MINT"
  else if containsText (toSmall name) "burn" then .changeSupply first (-1) "BURN"
  else if beginsWith (toSmall name) "set" then .assign (dropChars 3 name) first
  else .countUp (toCapitals name)

/-- The effect of a call by the name of its function. -/
def ofCall (name : String) : List Json → Effect
  | [] => .countUp (toCapitals name)
  | [first] => ofFirst name first
  | first :: second :: _ =>
    if containsText (toSmall name) "transfer" then .transfer first second else ofFirst name first

/-- Apply an effect to a draft. -/
def apply (d : Draft) : Effect → Except Fault Draft
  | transfer recipient amount => d.transfer recipient amount
  | changeSupply amount sign operation => d.changeSupply amount sign operation
  | assign variableName value => d.assign variableName value
  | countUp operation => d.countUp operation

theorem apply_ofFirst (d : Draft) (name : String) (first : Json) :
    (ofFirst name first).apply d = Draft.apply.applyToFirst d name (toSmall name) first := by
  unfold ofFirst Draft.apply.applyToFirst
  split
  · rfl
  · split
    · rfl
    · split
      · rfl
      · rfl

theorem apply_ofCall (d : Draft) (name : String) (values : List Json) :
    (ofCall name values).apply d = d.apply name values := by
  match values with
  | [] => rfl
  | [first] => exact apply_ofFirst d name first
  | first :: second :: rest =>
    dsimp only [ofCall, Draft.apply]
    split
    · rfl
    · exact apply_ofFirst d name first

/-- The number that an effect leaves in an entry that held one, if it leaves a number at all. A transfer to
    the entry that it takes the amount from gives it back. -/
def leaves? (d : Draft) (key : String) (held : Int) : Effect → Option Int
  | transfer recipient amount =>
    match d.find? "balance", Draft.amountOf amount with
    | some source, .ok n =>
      some (held - (if key = source then n else 0)
        + (if key = recipient.display ++ "_balance" then n else 0))
    | _, _ => some held
  | changeSupply amount sign _ =>
    match d.find? "totalSupply", Draft.amountOf amount with
    | some supply, .ok n => some (if key = supply then held + sign * n else held)
    | _, _ => some held
  | assign variableName value =>
    match d.find? variableName, Draft.wordOf value with
    | some target, .ok word => if key = target then Numeral.read? .hexadecimal word else some held
    | _, _ => some held
  | countUp _ =>
    match d.findMutable? with
    | some target => some (if key = target then held + 1 else held)
    | none => some held

/-- Whether an effect stores an argument as it is, without arithmetic. -/
def stores : Effect → Bool
  | assign _ _ => true
  | transfer _ _ | changeSupply _ _ _ | countUp _ => false

end Effect

/-! ## One write -/

namespace Projection

theorem number?_put (state : Projection) (key other : String) (entry : StateEntry) :
    number? (Table.put state key entry) other
      = if other = key then Numeral.read? .hexadecimal entry.value else state.number? other := by
  unfold number?
  by_cases hother : other = key
  · rw [if_pos hother, hother, Table.lookup_put_self, Option.bind_some]
  · rw [if_neg hother, Table.lookup_put_of_ne _ _ _ _ hother]

theorem mem_keys_of_number? {state : Projection} {key : String} {n : Int}
    (hnumber : state.number? key = some n) : key ∈ Table.keys state := by
  obtain ⟨entry, hentry, -⟩ := Option.bind_eq_some_iff.1 hnumber
  exact (Table.mem_keys_iff_exists_lookup _ _).2 ⟨entry, hentry⟩

end Projection

namespace Draft

variable {d next : Draft} {key word operation : String} {value n : Int}

theorem numberAt_eq_ok_iff : d.numberAt key = .ok n ↔ d.state.number? key = some n := by
  unfold numberAt Projection.number?
  cases d.state.lookup key with
  | none => simp
  | some entry =>
    dsimp only
    rw [Option.bind_some, mapError_eq_ok_iff, Numeral.read?_eq_some_iff]

theorem number?_of_write (hok : d.write key word operation = .ok next) (other : String) :
    next.state.number? other
      = if other = key then Numeral.read? .hexadecimal word else d.state.number? other := by
  obtain ⟨entry, -, hstate, -⟩ := write_ok hok
  rw [hstate, Projection.number?_put]
  rfl

theorem nonneg_of_writeNumber (hok : d.writeNumber key value operation = .ok next) : 0 ≤ value := by
  unfold writeNumber at hok
  by_cases hnegative : value < 0
  · rw [if_pos hnegative] at hok
    cases hok
  · exact Int.not_lt.1 hnegative

theorem number?_of_writeNumber (hok : d.writeNumber key value operation = .ok next) (other : String) :
    next.state.number? other = if other = key then some value else d.state.number? other := by
  rw [number?_of_write (write_of_writeNumber hok), Numeral.read?_hex]

theorem keys_of_write (hok : d.write key word operation = .ok next) :
    Table.keys next.state = Table.keys d.state := by
  obtain ⟨entry, hentry, hstate, -⟩ := write_ok hok
  rw [hstate, Table.keys_put, if_pos ((Table.mem_keys_iff_exists_lookup _ _).2 ⟨entry, hentry⟩)]

/-! ## Effects in numbers -/

/-- What is made of a transfer that succeeds: it finds no balance to take from, or it takes the amount from
    one, and gives it to the recipient if there is such an entry. -/
theorem transfer_ok {recipient amount : Json} (hok : d.transfer recipient amount = .ok next) :
    (d.find? "balance" = none ∧ next = d)
      ∨ ∃ source n held debited, d.find? "balance" = some source ∧ amountOf amount = .ok n
        ∧ d.state.number? source = some held
        ∧ d.writeNumber source (held - n) "TRANSFER_FROM" = .ok debited
        ∧ ((debited.state.lookup (recipient.display ++ "_balance") = none ∧ next = debited)
          ∨ ∃ balance, debited.state.number? (recipient.display ++ "_balance") = some balance
            ∧ debited.writeNumber (recipient.display ++ "_balance") (balance + n) "TRANSFER_TO"
              = .ok next) := by
  unfold transfer at hok
  cases hsource : d.find? "balance" with
  | none =>
    rw [hsource] at hok
    cases hok
    exact Or.inl ⟨rfl, rfl⟩
  | some source =>
    rw [hsource] at hok
    obtain ⟨n, hamount, hok⟩ := bind_eq_ok_iff.1 hok
    obtain ⟨held, hheld, hok⟩ := bind_eq_ok_iff.1 hok
    obtain ⟨debited, hdebit, hok⟩ := bind_eq_ok_iff.1 hok
    refine Or.inr ⟨source, n, held, debited, rfl, hamount, numberAt_eq_ok_iff.1 hheld, hdebit, ?_⟩
    by_cases habsent : (debited.state.lookup (recipient.display ++ "_balance")).isNone = true
    · rw [if_pos habsent] at hok
      cases hok
      exact Or.inl ⟨Option.isNone_iff_eq_none.1 habsent, rfl⟩
    · rw [if_neg habsent] at hok
      obtain ⟨balance, hbalance, hcredit⟩ := bind_eq_ok_iff.1 hok
      exact Or.inr ⟨balance, numberAt_eq_ok_iff.1 hbalance, hcredit⟩

theorem number?_of_transfer {recipient amount : Json} (hok : d.transfer recipient amount = .ok next)
    {held : Int} (hheld : d.state.number? key = some held) :
    next.state.number? key = (Effect.transfer recipient amount).leaves? d key held := by
  rcases transfer_ok hok with
    ⟨hsource, rfl⟩ | ⟨source, n, before, debited, hsource, hamount, hbefore, hdebit, hends⟩
  · simp only [Effect.leaves?, hsource, hheld]
  · have hdebited := number?_of_writeNumber hdebit
    simp only [Effect.leaves?, hsource, hamount]
    rcases hends with ⟨habsent, rfl⟩ | ⟨balance, hbalance, hcredit⟩
    · -- the key holds a number, so it is not the missing recipient
      have hkey : key ≠ recipient.display ++ "_balance" := by
        rintro rfl
        have hnone := hdebited (recipient.display ++ "_balance")
        rw [Projection.number?, habsent, Option.bind_none, hheld] at hnone
        split at hnone
        · cases hnone
        · cases hnone
      rw [hdebited, if_neg hkey]
      by_cases hsame : key = source
      · subst hsame
        rw [hbefore] at hheld
        cases hheld
        simp
      · simp [hsame, hheld]
    · rw [number?_of_writeNumber hcredit]
      rw [hdebited] at hbalance ⊢
      by_cases hsame : key = source
      · subst hsame
        rw [hbefore] at hheld
        cases hheld
        by_cases htarget : key = recipient.display ++ "_balance"
        · rw [if_pos htarget.symm] at hbalance
          cases hbalance
          simp [← htarget]
        · simp [htarget]
      · by_cases htarget : key = recipient.display ++ "_balance"
        · rw [← htarget, if_neg hsame, hheld] at hbalance
          cases hbalance
          simp [hsame, ← htarget]
        · simp [hsame, htarget, hheld]

theorem number?_of_changeSupply {amount : Json} {sign : Int}
    (hok : d.changeSupply amount sign operation = .ok next) {held : Int}
    (hheld : d.state.number? key = some held) :
    next.state.number? key = (Effect.changeSupply amount sign operation).leaves? d key held := by
  unfold changeSupply at hok
  cases hsupply : d.find? "totalSupply" with
  | none =>
    rw [hsupply] at hok
    cases hok
    simp only [Effect.leaves?, hsupply, hheld]
  | some supply =>
    rw [hsupply] at hok
    obtain ⟨before, hbefore, hok⟩ := bind_eq_ok_iff.1 hok
    obtain ⟨n, hamount, hwrite⟩ := bind_eq_ok_iff.1 hok
    rw [number?_of_writeNumber hwrite]
    simp only [Effect.leaves?, hsupply, hamount]
    by_cases hsame : key = supply
    · subst hsame
      rw [numberAt_eq_ok_iff, hheld] at hbefore
      cases hbefore
      simp
    · simp [hsame, hheld]

theorem number?_of_assign {variableName : String} {argument : Json}
    (hok : d.assign variableName argument = .ok next) {held : Int}
    (hheld : d.state.number? key = some held) :
    next.state.number? key = (Effect.assign variableName argument).leaves? d key held := by
  unfold assign at hok
  cases htarget : d.find? variableName with
  | none =>
    rw [htarget] at hok
    cases hok
    simp only [Effect.leaves?, htarget, hheld]
  | some target =>
    rw [htarget] at hok
    obtain ⟨word, hword, hwrite⟩ := bind_eq_ok_iff.1 hok
    rw [number?_of_write hwrite, hheld]
    simp only [Effect.leaves?, htarget, hword]

theorem number?_of_countUp (hok : d.countUp operation = .ok next) {held : Int}
    (hheld : d.state.number? key = some held) :
    next.state.number? key = (Effect.countUp operation).leaves? d key held := by
  unfold countUp at hok
  cases htarget : d.findMutable? with
  | none =>
    rw [htarget] at hok
    cases hok
    simp only [Effect.leaves?, htarget, hheld]
  | some target =>
    rw [htarget] at hok
    obtain ⟨before, hbefore, hwrite⟩ := bind_eq_ok_iff.1 hok
    rw [number?_of_writeNumber hwrite]
    simp only [Effect.leaves?, htarget]
    by_cases hsame : key = target
    · subst hsame
      rw [numberAt_eq_ok_iff, hheld] at hbefore
      cases hbefore
      simp
    · simp [hsame, hheld]

end Draft

/-- **Every effect** that succeeds leaves the numbers that it stands for. -/
theorem Effect.number?_of_apply {effect : Effect} {d next : Draft} (hok : effect.apply d = .ok next)
    {key : String} {held : Int} (hheld : d.state.number? key = some held) :
    next.state.number? key = effect.leaves? d key held := by
  cases effect with
  | transfer recipient amount => exact Draft.number?_of_transfer hok hheld
  | changeSupply amount sign operation => exact Draft.number?_of_changeSupply hok hheld
  | assign variableName value => exact Draft.number?_of_assign hok hheld
  | countUp operation => exact Draft.number?_of_countUp hok hheld

/-! ## Whole calls -/

/-- Writes leave the keys as they are, and each one adds a change. -/
theorem Draft.Writes.keys_eq {d next : Draft} {keys : List String} (hwrites : Writes d keys next) :
    Table.keys next.state = Table.keys d.state
      ∧ next.changes.length = d.changes.length + keys.length := by
  induction hwrites with
  | none => exact ⟨rfl, rfl⟩
  | more _ hwrite ih =>
    obtain ⟨entry, -, -, hchanges⟩ := write_ok hwrite
    refine ⟨(keys_of_write hwrite).trans ih.1, ?_⟩
    rw [hchanges, List.length_cons, ih.2, List.length_append, List.length_singleton, Nat.add_assoc]

theorem Draft.Writes.eq_of_no_changes {start : Projection} {next : Draft} {keys : List String}
    (hwrites : Writes ⟨start, []⟩ keys next) (hnone : next.changes = []) : next = ⟨start, []⟩ := by
  have hlength := hwrites.keys_eq.2
  rw [hnone, List.length_nil, Nat.zero_add] at hlength
  obtain rfl := List.eq_nil_of_length_eq_zero hlength.symm
  generalize hkeys : ([] : List String) = keys at hwrites
  cases hwrites with
  | none => rfl
  | more => exact absurd hkeys.symm (List.append_ne_nil_of_right_ne_nil _ (List.cons_ne_nil _ _))

/-- Two states with the same keys and the same numbers at them. -/
structure Projection.SameNumbers (state other : Projection) : Prop where
  keys_eq : Table.keys other = Table.keys state
  number?_eq : ∀ key, other.number? key = state.number? key

namespace Simulation

/-- Marking the entries of changes leaves the numbers as they are. -/
theorem sameNumbers_of_stamp {snapshot : Nat} {state stamped : Projection} {changes : List StateChange}
    (hok : stamp snapshot state changes = .ok stamped) : state.SameNumbers stamped := by
  refine foldlM_induction (motive := fun _ marked => state.SameNumbers marked) ⟨rfl, fun _ => rfl⟩ ?_ hok
  intro done marked next c hmarked hstep
  cases hentry : marked.lookup c.key with
  | none =>
    rw [hentry] at hstep
    cases hstep
  | some entry =>
    rw [hentry] at hstep
    cases hstep
    have hmem := (Table.mem_keys_iff_exists_lookup _ _).2 ⟨entry, hentry⟩
    refine ⟨?_, fun key => ?_⟩
    · rw [Table.keys_put, if_pos hmem, hmarked.keys_eq]
    · rw [Projection.number?_put, ← hmarked.number?_eq key]
      split
      · next hkey =>
        rw [hkey, Projection.number?, hentry, Option.bind_some]
      · rfl

variable {h : History} {functions : List AbiFunction} {name arguments : Json}
  {given : Option Projection} {memory : Nat} {f : AbiFunction} {values : List Json} {r : Simulation}

/-- **A call without errors** only reads and shows the state that it started from, or it shows the numbers
    that its effect leaves. -/
theorem run_ok (hfound : AbiFunction.find? name functions = .ok (some f))
    (hlisted : argumentsOf arguments = .ok values)
    (hok : (run h functions name arguments given memory).result = .ok r) (hnone : r.errors = []) :
    (f.isReadOnly = true ∧ r.state = given.getD (h.currentState none))
      ∨ (f.isReadOnly = false ∧ ∃ draft, (Effect.ofCall f.name values).apply
          ⟨given.getD (h.currentState none), []⟩ = .ok draft ∧ draft.state.SameNumbers r.state) := by
  generalize hstart : given.getD (h.currentState none) = start
  rw [run_eq_perform hfound hlisted, hstart] at hok
  rw [Effect.apply_ofCall]
  have haccepted : problems f values memory = .ok [] := by
    unfold perform at hok
    match hwrong : problems f values memory with
    | .ok [] => rfl
    | .error fault =>
      rw [hwrong] at hok
      cases hok
    | .ok (error :: errors) =>
      rw [hwrong] at hok
      cases hok
      cases hnone
  have hperforms : Performs h f values start (perform h f values start memory) := performs haccepted
  generalize perform h f values start memory = move at hperforms hok
  cases hperforms with
  | reads hreads =>
    cases hok
    exact Or.inl ⟨hreads, rfl⟩
  | fails =>
    cases hok
    cases hnone
  | breaks => cases hok
  | @keeps draft hwrites happlied hempty =>
    obtain ⟨keys, hmade⟩ := Draft.writes_of_apply happlied
    cases hok
    refine Or.inr ⟨hwrites, draft, happlied, ?_⟩
    rw [hmade.eq_of_no_changes hempty]
    exact ⟨rfl, fun _ => rfl⟩
  | @commits draft hwrites happlied =>
    rw [result_commit] at hok
    obtain ⟨stamped, hstamp, rfl⟩ := map_eq_ok_iff.1 hok
    exact Or.inr ⟨hwrites, draft, happlied, sameNumbers_of_stamp hstamp⟩

/-- **The numbers of a call.** A call without errors of a function that may write leaves at every key the
    number that its effect stands for. -/
theorem number?_of_run (hfound : AbiFunction.find? name functions = .ok (some f))
    (hlisted : argumentsOf arguments = .ok values) (hwrites : f.isReadOnly = false)
    (hok : (run h functions name arguments given memory).result = .ok r) (hnone : r.errors = []) {key : String}
    {held : Int} (hheld : (given.getD (h.currentState none)).number? key = some held) :
    r.state.number? key
      = (Effect.ofCall f.name values).leaves? ⟨given.getD (h.currentState none), []⟩ key held := by
  rcases run_ok hfound hlisted hok hnone with ⟨hreads, -⟩ | ⟨-, draft, happlied, hsame⟩
  · rw [hwrites] at hreads
    cases hreads
  · rw [hsame.number?_eq]
    exact Effect.number?_of_apply happlied hheld

end Simulation

end EvmScope
