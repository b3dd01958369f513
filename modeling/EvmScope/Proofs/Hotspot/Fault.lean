import EvmScope.Proofs.Hotspot.Attribution
import EvmScope.Proofs.Trace.Entry
import EvmScope.Proofs.Trace.Logs
import Mathlib.Algebra.Order.BigOperators.Group.List
import Mathlib.Algebra.Order.Ring.Int

set_option autoImplicit false

/-! # When an analysis fails

Code, source map, source and trace may be anything: what cannot be used of them is counted, and a report
is made. There is one exception. The advice on a range has the gas of the range in decimal digits, and
no more than `Numeral.maxDigits` of these are ever written. A trace may show gas in hexadecimal digits,
which have no such limit, so a range can have gas that cannot be written, and then there is no report.
`analyze_error_iff` says that this is all that can go wrong. -/

namespace EvmScope.Report

open RuntimeCosts

section Fails

variable (settings : Settings) (code : Code) (map : SourceMap) (source : String)
  (trace? : Option ParsedTrace) (file? : Option Int)

/-- The gas of the attributed instructions of a range. -/
def gasAt (range : Int × Int) : Int :=
  ((sharesAt settings code map trace? file? range).map (fun s => costOf trace? s.1)).sum

theorem costOf_pos_of_mem_shares (share : Instruction × Mapping)
    (hshare : share ∈ shares settings code map trace? file?) : 0 < costOf trace? share.1 :=
  (of_mem_attributed hshare).1

theorem gasAt_nonneg (range : Int × Int) : 0 ≤ gasAt settings code map trace? file? range := by
  refine List.sum_nonneg ?_
  rw [List.forall_mem_map]
  intro share hshare
  exact Int.le_of_lt (costOf_pos_of_mem_shares settings code map trace? file? share
    (List.mem_of_mem_filter hshare))

/-- The digits of a range's gas keep their limit exactly if the gas lies below the power of ten. -/
theorem length_gasAt_le_iff (range : Int × Int) :
    (Nat.toDigits 10 (gasAt settings code map trace? file? range).natAbs).length ≤ Numeral.maxDigits
      ↔ gasAt settings code map trace? file? range < 10 ^ Numeral.maxDigits := by
  obtain ⟨gas, hgas⟩ := Int.eq_ofNat_of_zero_le (gasAt_nonneg settings code map trace? file? range)
  rw [hgas, Int.natAbs_natCast, Nat.length_toDigits_le_iff (by decide) (by decide)]
  norm_cast

theorem exists_report_iff_gasAt :
    (∃ report, analyze settings code map source trace? file? = .ok report)
      ↔ ∀ share ∈ shares settings code map trace? file?,
        gasAt settings code map trace? file? share.2.range < 10 ^ Numeral.maxDigits := by
  rw [exists_report_iff]
  exact forall₂_congr (fun share _ =>
    length_gasAt_le_iff settings code map trace? file? share.2.range)

theorem analyze_error_of_le (share : Instruction × Mapping)
    (hshare : share ∈ shares settings code map trace? file?)
    (hgas : 10 ^ Numeral.maxDigits ≤ gasAt settings code map trace? file? share.2.range) :
    analyze settings code map source trace? file? = .error (.numeral .tooLongToWrite) := by
  cases hmade : analyze settings code map source trace? file? with
  | ok report =>
    have hfits := (exists_report_iff_gasAt settings code map source trace? file?).1 ⟨report, hmade⟩
    exact absurd (hfits share hshare) (Int.not_lt.2 hgas)
  | error fault =>
    obtain ⟨cause, hranked, rfl⟩ := analyze_error hmade
    rw [ranked_error hranked]

/-- **An analysis fails for nothing but an overlong gas figure.** It gives a report for every code, source
    map, source and trace, unless the attributed instructions of a range have together so much gas that
    it cannot be written in decimal digits. -/
theorem analyze_error_iff (fault : Fault) :
    analyze settings code map source trace? file? = .error fault
      ↔ fault = .numeral .tooLongToWrite ∧ ∃ share ∈ shares settings code map trace? file?,
        10 ^ Numeral.maxDigits ≤ gasAt settings code map trace? file? share.2.range := by
  constructor
  · intro herror
    obtain ⟨cause, hranked, rfl⟩ := analyze_error herror
    refine ⟨by rw [ranked_error hranked], ?_⟩
    by_contra hnone
    have hfits : ∀ share ∈ shares settings code map trace? file?,
        gasAt settings code map trace? file? share.2.range < 10 ^ Numeral.maxDigits := by
      intro share hshare
      exact Int.not_le.1 (fun hgas => hnone ⟨share, hshare, hgas⟩)
    obtain ⟨report, hok⟩ := (exists_report_iff_gasAt settings code map source trace? file?).2 hfits
    rw [hok] at herror
    cases herror
  · rintro ⟨rfl, share, hshare, hgas⟩
    exact analyze_error_of_le settings code map source trace? file? share hshare hgas

end Fails

/-! ## An overlong figure -/

/-- The trace of one read of storage with its cost in hexadecimal digits. -/
def readCosting (n : Nat) : Json :=
  .obj [("structLogs", .arr [.obj
    [("pc", .int 0), ("op", .str "SLOAD"), ("gasCost", .str (Numeral.hex n))]])]

theorem recorded_readCosting (settings : Settings) (hlimit : 0 < settings.traceLimit) (n : Nat)
    (i : Instruction) (hi : i.offset = 0) :
    recorded (traceOf settings (readCosting n)) i = [(n : Int)] := by
  have hlogs : ParsedTrace.logs? (readCosting n) = some [.obj
      [("pc", .int 0), ("op", .str "SLOAD"), ("gasCost", .str (Numeral.hex n))]] := rfl
  have hentries := ParsedTrace.entries_of_logs hlogs hlimit
  rw [List.filterMap_cons_some (TraceEntry.ofJson?_gasCost_hex "SLOAD" n), List.filterMap_nil]
    at hentries
  have htrace : traceOf settings (readCosting n)
      = some (ParsedTrace.ofJson (some settings.traceLimit) (readCosting n)) := rfl
  simp [htrace, recorded, outerFrame, ParsedTrace.outerDepth?, hentries, observations, gasOf?, hi]

/-- A code of a single instruction whose cost has more decimal digits than are written. -/
theorem analyze_readCosting (n : Nat) (hn : 10 ^ Numeral.maxDigits ≤ (n : Int)) :
    analyze Settings.standard (.text "54") (SourceMap.ofText (some "0:1:0")) "a"
      (traceOf Settings.standard (readCosting n)) none = .error (.numeral .tooLongToWrite) := by
  have hcode : (decode Settings.standard.instructionLimit (.text "54")).instructions
      = [⟨0, "SLOAD", some 0x54, []⟩] := by decide +kernel
  have hmap : (SourceMap.ofText (some "0:1:0")).entries = [⟨0, 1, 0, .regular, 0⟩] := by
    decide +kernel
  have hcost : costOf (traceOf Settings.standard (readCosting n)) ⟨0, "SLOAD", some 0x54, []⟩
      = n := by
    rw [costOf, recorded_readCosting Settings.standard (by decide) n _ rfl]
    simp
  have hpos : 0 < n := by
    have hpow : (0 : Int) < 10 ^ Numeral.maxDigits := pow_pos (by decide) _
    omega
  have hshares : shares Settings.standard (.text "54") (SourceMap.ofText (some "0:1:0"))
      (traceOf Settings.standard (readCosting n)) none
        = [(⟨0, "SLOAD", some 0x54, []⟩, ⟨0, 1, 0, .regular, 0⟩)] := by
    rw [shares, hcode, attributed, hmap]
    simp [hcost, hpos, Mapping.hasSource]
  refine analyze_error_of_le _ _ _ _ _ none (⟨0, "SLOAD", some 0x54, []⟩, ⟨0, 1, 0, .regular, 0⟩)
    (by rw [hshares]; exact List.mem_cons_self) ?_
  rw [gasAt, sharesAt, hshares]
  simpa only [decide_true, List.filter_cons_of_pos, List.filter_nil, List.map_cons, List.map_nil,
    hcost, List.sum_cons, List.sum_nil, add_zero] using hn

/-- There are traces without a report. -/
theorem analyze_fails_of_overlong_gas :
    analyze Settings.standard (.text "54") (SourceMap.ofText (some "0:1:0")) "a"
        (traceOf Settings.standard (readCosting (10 ^ Numeral.maxDigits))) none
      = .error (.numeral .tooLongToWrite) := by
  refine analyze_readCosting _ ?_
  rw [Nat.cast_pow, Nat.cast_ofNat]

end EvmScope.Report
