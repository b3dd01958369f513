import EvmScope.CommandLine.Execution
import EvmScope.Proofs.File
import EvmScope.Proofs.Hotspot.Attribution
import EvmScope.Proofs.Session.Analysis
import EvmScope.Proofs.SourceMap.Position
import EvmScope.Proofs.Traversal

set_option autoImplicit false

/-! # Where an analysis says that a hotspot begins

Compilers count the bytes of a source file, carriage returns included, but a file is read with line feeds
as its only line ends, and the offsets of hotspots are taken to be offsets into what was read. So where
the lines of a file end in both characters, an offset is off by one byte for each line before it.

`shown_start_iff` says when a hotspot is all the same shown where it begins: as long as the bytes that are
missing do not reach over the first character of its range. Without carriage returns that is always, and
with one of them before a range it is only if the range begins with a character outside ASCII, or at the
end of the file. -/

namespace EvmScope

namespace CommandLine

/-! ## Reading a source file -/

/-- An analysis works with the text of the source file. -/
theorem GasRequest.source_of_input {world : World} {r : GasRequest} {input : GasInput} {text : String}
    (hfile : world.file r.source = .content text.toUTF8) (hinput : r.input world = .ok input) :
    input.source = unifyLineEnds text := by
  have htext : world.text r.source = .ok (unifyLineEnds text) := by
    rw [World.text, hfile, FileState.text?_content]
  obtain ⟨contract, -, hinput⟩ := bind_eq_ok_iff.1 hinput
  obtain ⟨source, hsource, hinput⟩ := bind_eq_ok_iff.1 hinput
  rw [Except.ok.inj (hsource.symm.trans htext)] at hinput
  -- the trace is read from its file if there is one, and null else
  split at hinput
  · obtain ⟨trace, -, hinput⟩ := bind_eq_ok_iff.1 hinput
    cases hinput
    rfl
  · obtain ⟨trace, -, hinput⟩ := bind_eq_ok_iff.1 hinput
    cases hinput
    rfl

/-- A hotspot is shown: an analysis can read its input and makes a report of it, and the hotspot is among
    those of the report that are asked for. -/
def GasRequest.Shows (world : World) (settings : Settings) (r : GasRequest) (h : Hotspot) : Prop :=
  ∃ input report, r.input world = .ok input
    ∧ ((Session.begin settings Hub.empty : Session Unit).analyze input.contract input.source input.trace
        r.creation).result = .ok report
    ∧ h ∈ r.shown report

theorem GasRequest.mem_of_mem_shown {r : GasRequest} {report : Report} {h : Hotspot}
    (hshown : h ∈ r.shown report) : h ∈ report.hotspots := by
  rw [GasRequest.shown] at hshown
  cases hleast : r.least with
  | none =>
    rw [hleast] at hshown
    exact hshown
  | some least =>
    rw [hleast] at hshown
    exact (List.mem_filter.1 hshown).1

/-- A shown hotspot begins at the position of its offset in the text that was read. -/
theorem GasRequest.Shows.startPosition_eq {world : World} {settings : Settings} {r : GasRequest}
    {h : Hotspot} (hshows : r.Shows world settings h) {text : String}
    (hfile : world.file r.source = .content text.toUTF8) (hpaired : PairedReturns text.toList) :
    h.startPosition = positionAt (String.ofList (dropReturns text.toList)) h.start := by
  obtain ⟨input, report, hinput, hreport, hshown⟩ := hshows
  rw [Session.result_analyze] at hreport
  have hstart := (Report.positions_of_analyze hreport h (mem_of_mem_shown hshown)).1
  rw [hstart, source_of_input hfile hinput, unifyLineEnds, hpaired.unifyFrom_eq]

/-- **When a hotspot is shown where it begins.** In a file whose lines end with a line feed, alone or
    behind a carriage return, a hotspot is shown at the furthest place before which no more bytes stand
    than its offset counts, carriage returns left out. This is the place of its offset in the file exactly
    if the carriage returns before the place are fewer than the bytes of the character that follows it, or
    if the file ends there. -/
theorem shown_start_iff (world : World) (settings : Settings) (r : GasRequest) (text : String)
    (h : Hotspot) (hfile : world.file r.source = .content text.toUTF8)
    (hpaired : PairedReturns text.toList) (hshows : r.Shows world settings h) :
    (∃ passed left, dropReturns text.toList = passed ++ left
      ∧ FurthestWithin h.start.toNat passed left ∧ h.startPosition = Position.after passed)
    ∧ ∀ before behind, text.toList = before ++ behind → h.start = String.utf8Len before →
      (h.startPosition = Position.after before
        ↔ ∀ c ∈ behind.head?, before.count carriageReturn < c.utf8Size) := by
  have hstart := hshows.startPosition_eq hfile hpaired
  refine ⟨?_, fun before behind hsplit hoffset => ?_⟩
  · obtain ⟨passed, left, hsplit, hfurthest, hposition⟩ :=
      exists_positionAt_eq (dropReturns text.toList) h.start
    exact ⟨passed, left, hsplit, hfurthest, hstart.trans hposition⟩
  · rw [hsplit] at hpaired hstart
    rw [hstart, hoffset]
    exact hpaired.positionAt_eq_after_iff

/-! ## A range behind a line end -/

/-- An artifact whose only instruction reads from storage and begins at the fourth byte of the source. -/
def storageRead : String :=
  "\x7b\"abi\": [], \"deployedBytecode\": \x7b\"object\": \"54\", \"sourceMap\": \"3:1:0\"\x7d\x7d"

/-- A folder with this artifact and a source file. -/
def folderOf (source : String) : World where
  environment := []
  settingsFile := .missing
  file := fun path => if path = "T.json" then .content storageRead.toUTF8 else .content source.toUTF8
  now := ⟨0⟩
  elapsed := 0

/-- The analysis of the two files. -/
def folderAnalysis : GasRequest where
  artifact := "T.json"
  source := "T.sol"
  contract := none
  trace := none
  creation := false
  format := .json
  least := none
  output := none

theorem file_folderOf (source : String) :
    (folderOf source).file folderAnalysis.source = .content source.toUTF8 := by
  have hother : folderAnalysis.source ≠ "T.json" := by decide
  simp only [folderOf]
  rw [if_neg hother]

theorem exists_ofFile_storageRead :
    ∃ contract, Artifact.ofFile "T.json" (.content storageRead.toUTF8) none = .ok contract
      ∧ contract.runtimeCode = "54" ∧ contract.runtimeMap = "3:1:0"
      ∧ Contract.fileFilter contract.fileIndex = none := by
  have hmade : (Artifact.ofFile "T.json" (.content storageRead.toUTF8) none).toOption.map
      (fun c => (c.runtimeCode, c.runtimeMap, Contract.fileFilter c.fileIndex))
      = some ("54", "3:1:0", none) := by
    simp only [Artifact.ofFile, FileState.json, FileState.text?_content]
    decide +kernel
  cases hloaded : Artifact.ofFile "T.json" (.content storageRead.toUTF8) none with
  | error fault =>
    rw [hloaded] at hmade
    cases hmade
  | ok contract =>
    rw [hloaded] at hmade
    have hparts := Option.some.inj hmade
    exact ⟨contract, rfl, congrArg Prod.fst hparts, congrArg (·.2.1) hparts, congrArg (·.2.2) hparts⟩

/-- The analysis shows the range of the only instruction. -/
theorem exists_shows_folderAnalysis (source : String) :
    ∃ h, folderAnalysis.Shows (folderOf source) Settings.standard h ∧ h.start = 3 := by
  obtain ⟨contract, hloaded, hcode, hmap, hfilter⟩ := exists_ofFile_storageRead
  have htext : (folderOf source).text folderAnalysis.source = .ok (unifyLineEnds source) := by
    rw [World.text, file_folderOf, FileState.text?_content]
  have hinput : folderAnalysis.input (folderOf source)
      = .ok ⟨contract, unifyLineEnds source, .null⟩ :=
    bind_eq_ok_iff.2 ⟨contract, hloaded, bind_eq_ok_iff.2 ⟨unifyLineEnds source, htext, rfl⟩⟩
  obtain ⟨report, hreport⟩ : ∃ report, Report.analyze Settings.standard (.text "54")
      (SourceMap.ofText (some "3:1:0")) (unifyLineEnds source) none none = .ok report := by
    rw [Report.exists_report_iff]
    decide +kernel
  have hrange : ((3, 4) : Int × Int) ∈ report.hotspots.map Hotspot.range := by
    rw [(Report.map_range_ranked_perm (Report.analyze_ok hreport).1).mem_iff, Report.mem_keys_groups]
    decide +kernel
  obtain ⟨h, hh, hends⟩ := List.mem_map.1 hrange
  refine ⟨h, ⟨_, report, hinput, ?_, hh⟩, congrArg Prod.fst hends⟩
  have hdeployed : folderAnalysis.creation = false := rfl
  rw [Session.result_analyze, Session.reportOf, hfilter, hdeployed, if_neg Bool.false_ne_true, if_neg Bool.false_ne_true,
    hcode, hmap]
  exact hreport

/-- A range that begins with a character of two bytes is found in spite of one carriage return. -/
theorem shown_start_iff_twoByteCharacter :
    ∃ h, (folderOf "a\r\né\r\n").file folderAnalysis.source = .content "a\r\né\r\n".toUTF8
      ∧ PairedReturns "a\r\né\r\n".toList
      ∧ folderAnalysis.Shows (folderOf "a\r\né\r\n") Settings.standard h
      ∧ h.start = String.utf8Len "a\r\n".toList
      ∧ h.startPosition = Position.after "a\r\n".toList := by
  obtain ⟨h, hshows, hoffset⟩ := exists_shows_folderAnalysis "a\r\né\r\n"
  have hfile := file_folderOf "a\r\né\r\n"
  have hpaired : PairedReturns "a\r\né\r\n".toList := by decide
  have hstart := (shown_start_iff (folderOf "a\r\né\r\n") Settings.standard folderAnalysis
    "a\r\né\r\n" h hfile hpaired hshows).2 "a\r\n".toList "é\r\n".toList (by decide) hoffset
  refine ⟨h, hfile, hpaired, hshows, hoffset, hstart.2 (fun c hc => ?_)⟩
  obtain rfl : 'é' = c := Option.some.inj hc
  decide

/-- A range that begins with an ASCII character on the second line is shown one column too far to the
    right: its place is the first column. -/
theorem shown_start_misses_behind_return :
    ∃ h, (folderOf "a\r\nbc\r\n").file folderAnalysis.source = .content "a\r\nbc\r\n".toUTF8
      ∧ folderAnalysis.Shows (folderOf "a\r\nbc\r\n") Settings.standard h
      ∧ h.start = String.utf8Len "a\r\n".toList
      ∧ Position.after "a\r\n".toList = ⟨1, 0⟩ ∧ h.startPosition = ⟨1, 1⟩ := by
  obtain ⟨h, hshows, hoffset⟩ := exists_shows_folderAnalysis "a\r\nbc\r\n"
  have hfile := file_folderOf "a\r\nbc\r\n"
  have hstart := hshows.startPosition_eq hfile (by decide)
  rw [hoffset] at hstart
  refine ⟨h, hfile, hshows, hoffset, by decide, ?_⟩
  rw [hstart]
  decide

end CommandLine

end EvmScope
