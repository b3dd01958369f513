import EvmScope.Proofs.Trace.Logs

set_option autoImplicit false

/-! # Reading accounts for every entry

Reading looks at the entries that the limit lets through, keeps those that can be read in their order,
and counts all others as skipped. So the kept entries and the skipped ones make up the whole list,
whatever is in it and wherever the limit cuts it. What is kept is a `filterMap` of a front part of the
list: a higher limit can only add entries behind those of a lower one, and a list that is read in two
parts gives the entries of both. -/

namespace EvmScope.ParsedTrace

/-- The front part of a list that a limit lets through, the whole list where there is no limit. -/
def within (limit? : Option Nat) (logs : List Json) : List Json :=
  match limit? with
  | none => logs
  | some limit => logs.take limit

theorem within_isPrefix (limit? : Option Nat) (logs : List Json) : within limit? logs <+: logs := by
  cases limit? with
  | none => exact List.prefix_rfl
  | some limit => exact List.take_prefix limit logs

/-- The number of entries that are looked at is that of the front part. -/
theorem take_limitOf (limit? : Option Nat) (logs : List Json) :
    logs.take (limitOf (limit?.map Nat.cast) logs.length) = within limit? logs := by
  cases limit? with
  | none => simp [limitOf, within]
  | some limit => simp [limitOf, within, ← List.take_eq_take_min]

/-- The limit cuts a list exactly if the list is longer. -/
theorem limitOf_lt_iff (limit? : Option Nat) (total : Nat) :
    limitOf (limit?.map Nat.cast) total < total ↔ ∃ limit, limit? = some limit ∧ limit < total := by
  cases limit? with
  | none => simp [limitOf]
  | some limit =>
    simp only [limitOf, Option.map_some, Int.toNat_natCast, Option.some.injEq, exists_eq_left']
    omega

/-- A trace accounts for every entry of a list that was read up to a limit. -/
structure AccountsFor (limit? : Option Nat) (logs : List Json) (trace : ParsedTrace) : Prop where
  total_eq : trace.total = logs.length
  /-- No entry is lost, and none is counted twice. -/
  total_eq_add : trace.total = trace.entries.length + trace.skipped
  truncated_iff : trace.truncated = true ↔ ∃ limit, limit? = some limit ∧ limit < logs.length
  /-- The readable entries within the limit are kept in their order. -/
  entries_eq : trace.entries = (within limit? logs).filterMap TraceEntry.ofJson?

section Lists

variable {document : Json} {logs : List Json}

/-- A document with a list of entries is read off the list. -/
theorem accountsFor_ofJson (hlogs : logs? document = some logs) (limit? : Option Nat) :
    AccountsFor limit? logs (ofJson (limit?.map Nat.cast) document) := by
  obtain ⟨fields, rfl, hraw⟩ : ∃ fields, document = .obj fields ∧ rawEntries fields = .arr logs := by
    unfold logs? at hlogs
    split at hlogs
    · next fields =>
      split at hlogs
      · next items hraw => exact ⟨fields, rfl, hraw.trans (congrArg Json.arr (Option.some.inj hlogs))⟩
      · exact absurd hlogs (by simp)
    · exact absurd hlogs (by simp)
  have hkept : ((within limit? logs).filterMap TraceEntry.ofJson?).length ≤ logs.length :=
    Nat.le_trans (List.length_filterMap_le _ _) (within_isPrefix limit? logs).length_le
  simp only [ofJson, hraw, take_limitOf]
  refine ⟨rfl, by dsimp only; omega, ?_, rfl⟩
  rw [decide_eq_true_iff, limitOf_lt_iff]

/-- A limit lets a front part of the entries through that are read without one. -/
theorem entries_isPrefix (hlogs : logs? document = some logs) (limit : Nat) :
    (ofJson (some limit) document).entries <+: (ofJson none document).entries := by
  have hlimited := (accountsFor_ofJson hlogs (some limit)).entries_eq
  have hall := (accountsFor_ofJson hlogs none).entries_eq
  simp only [Option.map_some, Option.map_none] at hlimited hall
  rw [hlimited, hall]
  exact (within_isPrefix (some limit) logs).filterMap TraceEntry.ofJson?

/-- A list in two parts is read part by part: the entries follow each other, the skipped ones add up. -/
theorem read_append {front back : Json} {first second : List Json}
    (hfront : logs? front = some first) (hback : logs? back = some second)
    (hlogs : logs? document = some (first ++ second)) :
    (ofJson none document).entries = (ofJson none front).entries ++ (ofJson none back).entries
      ∧ (ofJson none document).skipped
        = (ofJson none front).skipped + (ofJson none back).skipped := by
  have haccounts := accountsFor_ofJson hlogs none
  have haccounts₁ := accountsFor_ofJson hfront none
  have haccounts₂ := accountsFor_ofJson hback none
  simp only [Option.map_none] at haccounts haccounts₁ haccounts₂
  have hentries : (ofJson none document).entries
      = (ofJson none front).entries ++ (ofJson none back).entries := by
    rw [haccounts.entries_eq, haccounts₁.entries_eq, haccounts₂.entries_eq]
    exact List.filterMap_append
  refine ⟨hentries, ?_⟩
  -- what is not kept is skipped, in the parts as in the whole
  have hkept := congrArg List.length hentries
  have hlength := haccounts.total_eq
  rw [List.length_append] at hkept hlength
  have htotal := haccounts.total_eq_add
  have htotal₁ := haccounts₁.total_eq_add
  have htotal₂ := haccounts₂.total_eq_add
  rw [haccounts₁.total_eq] at htotal₁
  rw [haccounts₂.total_eq] at htotal₂
  omega

end Lists

/-- No document keeps and skips more entries than it has. -/
theorem length_entries_add_skipped (limit : Nat) (document : Json) :
    (ofJson (some limit) document).entries.length + (ofJson (some limit) document).skipped
      = (ofJson (some limit) document).total := by
  cases hlogs : logs? document with
  | none =>
    obtain ⟨hentries, htotal, hskipped⟩ := @read_of_no_logs limit document hlogs
    rw [hentries, htotal, hskipped]
    rfl
  | some logs => exact (accountsFor_ofJson hlogs (some limit)).total_eq_add.symm

end EvmScope.ParsedTrace
