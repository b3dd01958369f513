import EvmScope.Proofs.Hotspot.Attribution

set_option autoImplicit false

/-! # The file of a hotspot

Ranges are told apart by their two ends alone, and the file that a hotspot names is the one of its first
instruction. A report on one file takes the instructions of this file only, so there all instructions of
a hotspot are of the file that it names. A report on any file has nothing that keeps the files apart: two
of them can meet in a hotspot, and they do exactly where the map gives one pair of ends to attributed
instructions of both. -/

namespace EvmScope.Report

open RuntimeCosts

variable {settings : Settings} {code : Code} {map : SourceMap} {source : String}
  {trace? : Option ParsedTrace} {file? : Option Int} {report : Report}

/-- How the file of a hotspot stands to those of the instructions that are accumulated in it. -/
structure FileOf (settings : Settings) (code : Code) (map : SourceMap)
    (trace? : Option ParsedTrace) (file? : Option Int) (h : Hotspot) : Prop where
  /-- What is accumulated are the attributed instructions of the range, in their order. -/
  mnemonics_eq : h.mnemonics
    = (sharesAt settings code map trace? file? h.range).map (fun share => share.1.mnemonic)
  gas_eq : h.gas
    = ((sharesAt settings code map trace? file? h.range).map (fun share => costOf trace? share.1)).sum
  /-- The file is that of the first instruction. -/
  first_file : ∃ first rest, sharesAt settings code map trace? file? h.range = first :: rest
    ∧ h.fileIndex = first.2.fileIndex
  /-- In a report on one file it is that of every instruction, and the one asked for. -/
  of_file : ∀ file, file? = some file → h.fileIndex = file
    ∧ ∀ share ∈ sharesAt settings code map trace? file? h.range, share.2.fileIndex = h.fileIndex
  /-- In any report the instructions of other files are those of a range that two files share. -/
  mixes_iff : (∃ share ∈ sharesAt settings code map trace? file? h.range,
      share.2.fileIndex ≠ h.fileIndex)
    ↔ ∃ a ∈ shares settings code map trace? file?, ∃ b ∈ shares settings code map trace? file?,
      a.2.range = h.range ∧ b.2.range = h.range ∧ a.2.fileIndex ≠ b.2.fileIndex

theorem mem_sharesAt {range : Int × Int} {share : Instruction × Mapping} :
    share ∈ sharesAt settings code map trace? file? range
      ↔ share ∈ shares settings code map trace? file? ∧ share.2.range = range := by
  rw [sharesAt, List.mem_filter, decide_eq_true_iff]

/-- The group of a range has the file of the first instruction that is attributed to it. -/
theorem first_file_of_mem_ranked {hotspots : List Hotspot}
    (hok : ranked settings source
      (Groups.ofPlacements (placedCharges settings code map trace? file?)) = .ok hotspots)
    (h : Hotspot) (hh : h ∈ hotspots) :
    ∃ first rest, sharesAt settings code map trace? file? h.range = first :: rest
      ∧ h.fileIndex = first.2.fileIndex := by
  obtain ⟨group, hgroup, hhotspot⟩ := exists_group_of_mem_ranked hok h hh
  rw [getElem?_groups, Group.ofShares, Option.map_eq_some_iff] at hgroup
  obtain ⟨charge, hfirst, rfl⟩ := hgroup
  rw [List.head?_map, Option.map_eq_some_iff] at hfirst
  obtain ⟨first, hhead, rfl⟩ := hfirst
  obtain ⟨rest, hshares⟩ := List.head?_eq_some_iff.1 hhead
  exact ⟨first, rest, hshares, fileIndex_of_hotspotOf hhotspot⟩

/-- **The file of a hotspot.** Every hotspot names the file of its first instruction. If the report is on
    one file, all instructions of the hotspot are of this file; if it is on any, some of them are of another
    file exactly if attributed instructions of two files have the range of the hotspot. -/
theorem file_of_hotspot (settings : Settings) (code : Code) (map : SourceMap) (source : String)
    (trace? : Option ParsedTrace) (file? : Option Int) (report : Report)
    (hok : analyze settings code map source trace? file? = .ok report) (h : Hotspot)
    (hh : h ∈ report.hotspots) : FileOf settings code map trace? file? h := by
  have hranked := (analyze_ok hok).1
  obtain ⟨hgas, hmnemonics, -⟩ := figures_of_mem_ranked hranked h hh
  obtain ⟨first, rest, hshares, hfile⟩ := first_file_of_mem_ranked hranked h hh
  have hfirst : first ∈ sharesAt settings code map trace? file? h.range := by
    rw [hshares]
    exact List.mem_cons_self
  refine ⟨hmnemonics, hgas, ⟨first, rest, hshares, hfile⟩, ?_, ?_⟩
  · rintro file rfl
    have hwanted : ∀ share ∈ sharesAt settings code map trace? (some file) h.range,
        share.2.fileIndex = file := by
      intro share hshare
      have hfilter := (of_mem_attributed (mem_sharesAt.1 hshare).1).2.2
      simpa [eq_comm] using hfilter
    rw [hfile, hwanted first hfirst]
    exact ⟨rfl, hwanted⟩
  · constructor
    · rintro ⟨share, hshare, hother⟩
      obtain ⟨hmem, hrange⟩ := mem_sharesAt.1 hshare
      obtain ⟨hmem₁, hrange₁⟩ := mem_sharesAt.1 hfirst
      exact ⟨share, hmem, first, hmem₁, hrange, hrange₁, hfile ▸ hother⟩
    · -- of two different files one is not the file of the hotspot
      rintro ⟨a, ha, b, hb, hrange, hrange', hdiffer⟩
      by_cases hsame : a.2.fileIndex = h.fileIndex
      · exact ⟨b, mem_sharesAt.2 ⟨hb, hrange'⟩, fun heq => hdiffer (hsame.trans heq.symm)⟩
      · exact ⟨a, mem_sharesAt.2 ⟨ha, hrange⟩, hsame⟩

/-! ## Two reads of storage in two files -/

theorem sharesAt_twoFiles :
    sharesAt Settings.standard (.text "5454") (SourceMap.ofText (some "0:1:0;0:1:1")) none none (0, 1)
      = [(⟨0, "SLOAD", some 0x54, []⟩, ⟨0, 1, 0, .regular, 0⟩),
        (⟨1, "SLOAD", some 0x54, []⟩, ⟨0, 1, 1, .regular, 0⟩)] := by
  decide +kernel

/-- Two reads with one range in two files make one hotspot. -/
theorem exists_hotspot_twoFiles :
    ∃ report, analyze Settings.standard (.text "5454") (SourceMap.ofText (some "0:1:0;0:1:1")) "ab" none
        none = .ok report
      ∧ ∃ h ∈ report.hotspots, h.range = (0, 1) := by
  obtain ⟨report, hok⟩ : ∃ report, analyze Settings.standard (.text "5454")
      (SourceMap.ofText (some "0:1:0;0:1:1")) "ab" none none = .ok report := by
    rw [exists_report_iff]
    decide +kernel
  refine ⟨report, hok, exists_hotspot_of_mem_shares (analyze_ok hok).1
    (⟨0, "SLOAD", some 0x54, []⟩, ⟨0, 1, 0, .regular, 0⟩) ?_⟩
  decide +kernel

theorem file_of_hotspot_twoFiles :
    ∃ report, analyze Settings.standard (.text "5454") (SourceMap.ofText (some "0:1:0;0:1:1")) "ab" none
        none = .ok report
      ∧ ∃ h ∈ report.hotspots, FileOf Settings.standard (.text "5454")
        (SourceMap.ofText (some "0:1:0;0:1:1")) none none h := by
  obtain ⟨report, hok, h, hh, -⟩ := exists_hotspot_twoFiles
  exact ⟨report, hok, h, hh, file_of_hotspot _ _ _ _ none none report hok h hh⟩

/-- Without a file to keep to, a hotspot takes in an instruction of another file than it names. -/
theorem file_of_hotspot_mixes :
    ∃ report, analyze Settings.standard (.text "5454") (SourceMap.ofText (some "0:1:0;0:1:1")) "ab" none
        none = .ok report
      ∧ ∃ h ∈ report.hotspots, ∃ share ∈ sharesAt Settings.standard (.text "5454")
          (SourceMap.ofText (some "0:1:0;0:1:1")) none none h.range,
        share.2.fileIndex ≠ h.fileIndex := by
  obtain ⟨report, hok, h, hh, hrange⟩ := exists_hotspot_twoFiles
  obtain ⟨first, rest, hshares, hfile⟩ := first_file_of_mem_ranked (analyze_ok hok).1 h hh
  have htwo := sharesAt_twoFiles
  rw [← hrange, hshares] at htwo
  obtain ⟨rfl, rfl⟩ := List.cons.inj htwo
  refine ⟨report, hok, h, hh, _, by rw [hshares]; exact List.mem_cons_of_mem _ List.mem_cons_self, ?_⟩
  rw [hfile]
  decide

end EvmScope.Report
