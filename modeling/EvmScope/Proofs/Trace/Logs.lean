import EvmScope.Trace.Parsed

set_option autoImplicit false

/-! # Traces seen through their lists of entries

What is read of a trace document is settled by the list of entries that it holds: the readable ones
among those within the limit are kept, and all others are counted as skipped. A document without such a
list gives no entries. -/

namespace EvmScope.ParsedTrace

/-- The list of entries that a trace document holds, readable or not. -/
def logs? : Json → Option (List Json)
  | .obj fields =>
    match rawEntries fields with
    | .arr logs => some logs
    | _ => none
  | _ => none

/-- Of the members of a list, a partial function takes some on and leaves out the others. -/
theorem length_filterMap_add_countP_isNone {α β : Type} (f : α → Option β) (l : List α) :
    (l.filterMap f).length + l.countP (fun a => (f a).isNone) = l.length := by
  induction l with
  | nil => rfl
  | cons a rest ih =>
    rw [List.filterMap_cons, List.countP_cons, List.length_cons]
    cases hf : f a with
    | none => simp only [Option.isNone_none, if_true]; omega
    | some b => simp only [Option.isNone_some, Bool.false_eq_true, if_false, List.length_cons]; omega

section Read

variable {limit : Nat} {document : Json} {logs : List Json}

theorem read_of_logs (hlogs : logs? document = some logs) :
    (ofJson (some limit) document).entries = (logs.take limit).filterMap TraceEntry.ofJson?
      ∧ (ofJson (some limit) document).total = logs.length
      ∧ (ofJson (some limit) document).skipped
        = logs.length - ((logs.take limit).filterMap TraceEntry.ofJson?).length := by
  cases document with
  | obj fields =>
    cases hraw : rawEntries fields with
    | arr items =>
      rw [logs?, hraw] at hlogs
      cases hlogs
      have htake : logs.take (limitOf (some (limit : Int)) logs.length) = logs.take limit := by
        rw [limitOf, Int.toNat_natCast, ← List.take_eq_take_min]
      simp only [ofJson, hraw, htake]
      exact ⟨trivial, trivial, trivial⟩
    | _ =>
      rw [logs?, hraw] at hlogs
      cases hlogs
  | _ => cases hlogs

theorem read_of_no_logs (hlogs : logs? document = none) :
    (ofJson (some limit) document).entries = [] ∧ (ofJson (some limit) document).total = 0
      ∧ (ofJson (some limit) document).skipped = 0 := by
  cases document with
  | obj fields =>
    cases hraw : rawEntries fields with
    | arr items =>
      rw [logs?, hraw] at hlogs
      cases hlogs
    | _ =>
      simp only [ofJson, hraw]
      exact ⟨rfl, rfl, rfl⟩
  | _ => exact ⟨rfl, rfl, rfl⟩

/-- All readable entries of a list that keeps the limit are kept. -/
theorem entries_of_logs (hlogs : logs? document = some logs) (hlimit : logs.length ≤ limit) :
    (ofJson (some limit) document).entries = logs.filterMap TraceEntry.ofJson? := by
  rw [(read_of_logs hlogs).1, List.take_of_length_le hlimit]

/-- The entries that are skipped are those that cannot be read and those beyond the limit. -/
theorem skipped_of_logs (hlogs : logs? document = some logs) :
    (ofJson (some limit) document).skipped
      = (logs.take limit).countP (fun log => (TraceEntry.ofJson? log).isNone)
        + (logs.length - limit) := by
  have hsplit := length_filterMap_add_countP_isNone TraceEntry.ofJson? (logs.take limit)
  rw [(read_of_logs hlogs).2.2]
  rw [List.length_take] at hsplit
  omega

/-- What is read of any document: of its list, or of an empty one where there is none. -/
theorem read_eq (limit : Nat) (document : Json) :
    (ofJson (some limit) document).entries
        = (((logs? document).getD []).take limit).filterMap TraceEntry.ofJson?
      ∧ (ofJson (some limit) document).total = ((logs? document).getD []).length
      ∧ (ofJson (some limit) document).skipped
        = (((logs? document).getD []).take limit).countP (fun log => (TraceEntry.ofJson? log).isNone)
          + (((logs? document).getD []).length - limit) := by
  cases hlogs : logs? document with
  | none =>
    obtain ⟨hentries, htotal, hskipped⟩ := @read_of_no_logs limit document hlogs
    simp [hentries, htotal, hskipped]
  | some logs =>
    exact ⟨(read_of_logs hlogs).1, (read_of_logs hlogs).2.1, skipped_of_logs hlogs⟩

end Read

end EvmScope.ParsedTrace
