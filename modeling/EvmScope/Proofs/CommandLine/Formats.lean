import EvmScope.Proofs.CommandLine.StartPosition
import EvmScope.Proofs.Gas.Usage
import EvmScope.Proofs.Json.Limit

set_option autoImplicit false

/-! # How an analysis ends in either format

Both formats show one report, and the exit status is that of the report. What an analysis can still stumble over
is the writing. A listing has the gas of the hotspots, which has been written into the advice before, and, unless
it is quiet, the total gas. A document has all figures of the report and, where there is a trace, its gas usage
with the gas figure as the trace gives it. So the formats end alike but for two cases: the trace has an unsized
value in place of its gas figure, or some integer of the document alone takes too many digits. -/

namespace EvmScope

/-- The gas of a hotspot can be written, as it stands in the advice. -/
theorem Report.not_tooLong_gas {settings : Settings} {code : Code} {map : SourceMap} {source : String}
    {trace? : Option ParsedTrace} {file? : Option Int} {report : Report}
    (hok : analyze settings code map source trace? file? = .ok report) :
    ∀ h ∈ report.hotspots, ¬ Numeral.TooLong h.gas := by
  intro h hh
  obtain ⟨group, -, hhotspot⟩ := exists_group_of_mem_ranked (analyze_ok hok).1 h hh
  rw [(hotspotOf_ok hhotspot).2.1]
  exact Nat.not_lt.2 ((exists_hotspotOf_iff h.range group).1 ⟨h, hhotspot⟩)

namespace CommandLine

/-! ## Listings -/

section Listings

variable {style : ListingStyle} {name : String} {report : Report} {shown : List Hotspot} {seconds : Binary64}

theorem failsIff_headingLines (style : ListingStyle) (name : String) (report : Report) (seconds : Binary64) :
    FailsIff (headingLines style name report seconds) .tooLongToWrite (Numeral.TooLong report.totalGas) :=
  (Numeral.failsIff_decimalWithin report.totalGas).bind_of_ok (fun _ => ⟨_, rfl⟩)

theorem failsIff_hotspotLines (style : ListingStyle) (place : Nat) (h : Hotspot) :
    FailsIff (hotspotLines style place h) .tooLongToWrite (Numeral.TooLong h.gas) :=
  (Numeral.failsIff_decimalWithin h.gas).bind_of_ok (fun _ => ⟨_, rfl⟩)

/-- The lines of all hotspots, with their places in the ranking. -/
def hotspotsLines (style : ListingStyle) (shown : List Hotspot) : Except NumeralError (List (List String)) :=
  shown.zipIdx.mapM (fun (h, i) => hotspotLines style (i + 1) h)

/-- The lines of a listing behind its heading. -/
def bodyLines (style : ListingStyle) (report : Report) (shown : List Hotspot) :
    Except NumeralError (List String) :=
  if report.diagnostics.nothingToAnalyze then
    .ok [style.paint [.dim] "  No bytecode (abstract contract or library); nothing to analyze."]
  else if shown.isEmpty then .ok [style.paint [.brightGreen] "  ✓ No hotspots at the requested severity level."]
  else (hotspotsLines style shown).map (fun lines => countsLine style shown :: lines.flatten)

theorem exists_hotspotsLines (style : ListingStyle) (hshown : ∀ h ∈ shown, ¬ Numeral.TooLong h.gas) :
    ∃ lines, hotspotsLines style shown = .ok lines := by
  refine (exists_mapM_eq_ok_iff _ _).2 (fun entry hentry => ?_)
  cases hlines : hotspotLines style (entry.2 + 1) entry.1 with
  | ok lines => exact ⟨lines, hlines⟩
  | error cause =>
    have hlong := ((failsIff_hotspotLines style (entry.2 + 1) entry.1 cause).1 hlines).1
    exact absurd hlong (hshown entry.1 (List.fst_mem_of_mem_zipIdx hentry))

/-- The lines behind the heading can be written if the gas of the hotspots can. -/
theorem exists_bodyLines (style : ListingStyle) (report : Report) (hshown : ∀ h ∈ shown, ¬ Numeral.TooLong h.gas) :
    ∃ lines, bodyLines style report shown = .ok lines := by
  obtain ⟨lines, hlines⟩ := exists_hotspotsLines style hshown
  unfold bodyLines
  rw [hlines]
  split
  · exact ⟨_, rfl⟩
  · split
    · exact ⟨_, rfl⟩
    · exact ⟨_, rfl⟩

theorem gasListing_eq (style : ListingStyle) (name : String) (report : Report) (shown : List Hotspot)
    (seconds : Binary64) : gasListing style name report shown seconds
      = (if style.quiet then .ok [] else headingLines style name report seconds) >>= fun heading =>
        bodyLines style report shown >>= fun body => .ok ("\n".intercalate (heading ++ body)) := by
  unfold gasListing bodyLines hotspotsLines
  generalize (List.mapM _ shown.zipIdx : Except NumeralError (List (List String))) = made
  cases style.quiet <;> cases report.diagnostics.nothingToAnalyze <;> cases shown.isEmpty <;> cases made <;> rfl

/-- **A listing** of hotspots whose gas can be written fails only at the total gas, which stands in its heading. -/
theorem failsIff_gasListing (style : ListingStyle) (name : String) (report : Report) (seconds : Binary64)
    (hshown : ∀ h ∈ shown, ¬ Numeral.TooLong h.gas) :
    FailsIff (gasListing style name report shown seconds) .tooLongToWrite
      (style.quiet = false ∧ Numeral.TooLong report.totalGas) := by
  have hheading : FailsIff (if style.quiet then .ok [] else headingLines style name report seconds) .tooLongToWrite
      (style.quiet = false ∧ Numeral.TooLong report.totalGas) := by
    cases hquiet : style.quiet with
    | true => exact .of_ok rfl (fun hnoisy => absurd hnoisy.1 (by decide))
    | false => exact (failsIff_headingLines style name report seconds).congr (by simp)
  rw [gasListing_eq]
  refine hheading.bind_of_ok (fun heading => ?_)
  obtain ⟨body, hbody⟩ := exists_bodyLines style report hshown
  rw [hbody]
  exact ⟨_, rfl⟩

end Listings

end CommandLine

/-! ## Documents -/

namespace CommandLine

theorem failsIff_indented (document : Json) :
    FailsIff (indented document) (.numeral .tooLongToWrite) (document.withinLimit = false) := by
  unfold indented Json.renderWithin
  cases document.withinLimit with
  | true => exact .of_ok rfl (by decide)
  | false => exact .of_error rfl rfl

section Documents

variable (name : Json) (report : Report) (shown : List Hotspot) (seconds : Binary64)

/-- The gas usage adds one number to a document, its gas figure. -/
theorem withinLimit_reportJson_some (u : GasUsage) :
    (reportJson name report shown seconds (some u)).withinLimit
      = ((reportJson name report shown seconds none).withinLimit && u.gas.withinLimit) := by
  have husage : Json.fieldsWithinLimit (usageFields (some u)) = u.gas.withinLimit := by
    simp [usageFields, Json.fieldsWithinLimit, Json.withinLimit, Json.itemsWithinLimit_str]
  rw [reportJson, reportJson, Json.withinLimit, Json.withinLimit, Json.fieldsWithinLimit_append,
    Json.fieldsWithinLimit_append, husage, usageFields, Json.fieldsWithinLimit, Bool.and_true]

/-- A document has the total gas. -/
theorem not_tooLong_totalGas_of_withinLimit {usage : Option GasUsage}
    (hwithin : (reportJson name report shown seconds usage).withinLimit = true) :
    ¬ Numeral.TooLong report.totalGas := by
  rw [reportJson, Json.withinLimit, Json.fieldsWithinLimit_append, Bool.and_eq_true] at hwithin
  simp only [Json.fieldsWithinLimit, Report.summary, Json.withinLimit, Bool.and_eq_true] at hwithin
  exact (Json.withinLimit_int_iff _).1 (by simpa [Json.withinLimit] using hwithin.1.2.1.2.1)

end Documents

/-- The gas usage that a document shows of a trace; null is no trace and has none. -/
def usageOf : Json → Except Fault (Option GasUsage)
  | .null => .ok none
  | trace => GasUsage.ofTrace (ParsedTrace.ofJson none trace)

theorem failsIff_usageOf (trace : Json) :
    FailsIff (usageOf trace) .wrongKind (ParsedTrace.gasValue trace).Unsized := by
  have hends := GasUsage.usageEnds_ofTrace none trace
  cases trace with
  | null => exact .of_ok rfl nofun
  | _ =>
    show FailsIff (GasUsage.ofTrace _) _ _
    generalize GasUsage.ofTrace _ = made at hends
    cases hends with
    | nothing _ _ hfigure => exact .of_ok rfl hfigure.sized
    | failed hunsized => exact .of_error rfl hunsized
    | made hsized _ => exact .of_ok rfl hsized

/-- A document shows the report and the gas usage of the trace. -/
theorem reportText_json (r : GasRequest) (quiet : Bool) (session : Session Unit) (input : GasInput)
    (report : Report) (seconds : Binary64) (hformat : r.format = .json) :
    r.reportText quiet session input report seconds = usageOf input.trace >>= fun usage =>
      indented (reportJson input.contract.qualifiedName report (r.shown report) seconds usage) := by
  unfold GasRequest.reportText
  rw [hformat]
  dsimp only
  cases input.trace with
  | null => rfl
  | _ =>
    have hrecord : ∀ trace : Json, (session.recordUsage trace).result
        = GasUsage.ofTrace (ParsedTrace.ofJson none trace) := fun trace =>
      UsageLedger.snd_record session.usage _
    dsimp only
    rw [hrecord]
    rfl

/-! ## Calls -/

/-- An analysis in a format. -/
def GasRequest.inFormat (r : GasRequest) (format : Format) : GasRequest :=
  { r with format := format }

/-- An invocation with a command. -/
def Invocation.asking (i : Invocation) (command : Command) : Invocation :=
  { i with command := some command }

/-- The status of a call that asks for an analysis in a format. -/
def statusIn (world : World) (i : Invocation) (r : GasRequest) (format : Format) : Except Fault Nat :=
  ((i.asking (.analyze (r.inFormat format))).execute world).status

/-- The exit status of a report. -/
def exitStatus (report : Report) : Nat :=
  if report.isCritical then exitCritical else exitSuccess

/-- The status behind a report, whose text is made or not. -/
def statusOf (report : Report) : Except Fault String → Except Fault Nat
  | .ok _ => .ok (exitStatus report)
  | .error fault => (Outcome.ofFault fault).status

/-- The report that a request asks for under some settings. -/
def GasRequest.reportOf (r : GasRequest) (settings : Settings) (input : GasInput) : Except Fault Report :=
  (Session.begin settings Hub.empty : Session Unit).reportOf input.contract input.source input.trace r.creation

/-- A call comes as far as a report. -/
structure Reports (world : World) (i : Invocation) (r : GasRequest) (input : GasInput) (report : Report) :
    Prop where
  version_eq : i.version = false
  input_eq : r.input world = .ok input
  exists_settings : ∃ settings, i.settings world = .ok settings ∧ r.reportOf settings input = .ok report

/-- How long an analysis takes. -/
def World.seconds (world : World) : Binary64 :=
  Binary64.ofDecimal false world.elapsed (-3)

/-- The document of a report. -/
def documentOf (world : World) (r : GasRequest) (input : GasInput) (report : Report) (usage : Option GasUsage) :
    Json :=
  reportJson input.contract.qualifiedName report (r.shown report) world.seconds usage

/-- The text of a report in a format. -/
def textIn (world : World) (i : Invocation) (r : GasRequest) (format : Format) (settings : Settings)
    (input : GasInput) (report : Report) : Except Fault String :=
  (r.inFormat format).reportText i.quiet ((Session.begin settings Hub.empty : Session Unit).analyze input.contract
    input.source input.trace r.creation).state input report world.seconds

section Calls

variable {world : World} {i : Invocation} {r : GasRequest} {input : GasInput} {report : Report}

theorem status_emit (report : Report) (text : Except Fault String) :
    (Outcome.ofResult (text >>= fun text => .ok (r.emit report text))).status = statusOf report text := by
  cases text with
  | error fault => rfl
  | ok text =>
    show (r.emit report text).status = .ok (exitStatus report)
    unfold GasRequest.emit
    cases r.output.filter (· ≠ "") with
    | none => rfl
    | some path => rfl

theorem statusOf_of_failsIff {text : Except Fault String} {cause : NumeralError} {reason : Prop} [Decidable reason]
    (hfails : FailsIff text (.numeral cause) reason) (report : Report) :
    statusOf report text = if reason then .error (.numeral cause) else .ok (exitStatus report) := by
  cases hmade : text with
  | ok made =>
    rw [if_neg (hfails.not_reason_of_ok hmade)]
    rfl
  | error fault =>
    obtain ⟨hreason, rfl⟩ := (hfails fault).1 hmade
    rw [if_pos hreason]
    rfl

/-- The status of a call, step by step. The format is looked at last. -/
theorem statusIn_eq (format : Format) : statusIn world i r format
    = if i.version then .ok exitSuccess
      else i.settings world >>= fun settings => (Outcome.ofResult (r.input world >>= fun input =>
        r.reportOf settings input >>= fun report => textIn world i r format settings input report >>= fun text =>
          .ok ((r.inFormat format).emit report text))).status := by
  have hsettings : (i.asking (.analyze (r.inFormat format))).settings world = i.settings world := rfl
  have hinput : (r.inFormat format).input world = r.input world := rfl
  rw [statusIn, Invocation.execute, hsettings]
  by_cases hversion : i.version = true
  · rw [if_pos hversion]
    exact congrArg Outcome.status (if_pos hversion)
  · rw [if_neg hversion]
    refine (congrArg Outcome.status (if_neg hversion)).trans ?_
    cases i.settings world with
    | error fault => rfl
    | ok settings =>
      show ((r.inFormat format).execute world settings i.quiet).status = _
      rw [GasRequest.execute, hinput]
      cases r.input world with
      | error fault => rfl
      | ok input =>
        dsimp only
        rw [Session.result_analyze]
        rfl

/-- **Behind a report** the status is that of the report or of the fault in its text. -/
theorem Reports.exists_statusIn (hreports : Reports world i r input report) :
    ∃ settings, r.reportOf settings input = .ok report
      ∧ ∀ format, statusIn world i r format = statusOf report (textIn world i r format settings input report) := by
  obtain ⟨hversion, hinput, settings, hsettings, hreport⟩ := hreports
  refine ⟨settings, hreport, fun format => ?_⟩
  rw [statusIn_eq, hversion, hsettings, hinput, ← status_emit]
  show (Outcome.ofResult (r.reportOf settings input >>= _)).status = _
  rw [hreport]
  rfl

/-- **Without a report** both formats end alike. -/
theorem statusIn_of_not_reports (hnone : ∀ input report, ¬ Reports world i r input report) :
    statusIn world i r .table = statusIn world i r .json := by
  rw [statusIn_eq, statusIn_eq]
  cases hversion : i.version with
  | true => rfl
  | false =>
    cases hsettings : i.settings world with
    | error fault => rfl
    | ok settings =>
      cases hinput : r.input world with
      | error fault => rfl
      | ok input =>
        show (Outcome.ofResult (r.reportOf settings input >>= _)).status
          = (Outcome.ofResult (r.reportOf settings input >>= _)).status
        cases hmade : r.reportOf settings input with
        | error fault => rfl
        | ok report => exact absurd ⟨hversion, hinput, settings, hsettings, hmade⟩ (hnone input report)

/-- A table fails at an overlong total gas in its heading. -/
theorem failsIff_textIn_table {settings : Settings} (hreport : r.reportOf settings input = .ok report) :
    FailsIff (textIn world i r .table settings input report) (.numeral .tooLongToWrite)
      (i.quiet = false ∧ Numeral.TooLong report.totalGas) := by
  unfold GasRequest.reportOf Session.reportOf at hreport
  have hshown : ∀ h ∈ r.shown report, ¬ Numeral.TooLong h.gas := fun h hh =>
    Report.not_tooLong_gas hreport h (GasRequest.mem_of_mem_shown hh)
  exact (failsIff_gasListing _ _ report world.seconds hshown).mapError Fault.numeral

theorem Reports.statusIn_table (hreports : Reports world i r input report) :
    statusIn world i r .table = if i.quiet = false ∧ Numeral.TooLong report.totalGas
      then .error (.numeral .tooLongToWrite) else .ok (exitStatus report) := by
  obtain ⟨settings, hreport, hstatus⟩ := hreports.exists_statusIn
  rw [hstatus]
  exact statusOf_of_failsIff (failsIff_textIn_table hreport) report

/-- A document fails at an unsized gas figure, or else at an overlong integer. -/
theorem Reports.statusIn_json (hreports : Reports world i r input report) :
    ((ParsedTrace.gasValue input.trace).Unsized ∧ statusIn world i r .json = .error .wrongKind)
      ∨ ¬ (ParsedTrace.gasValue input.trace).Unsized ∧ ∃ usage, usageOf input.trace = .ok usage
        ∧ statusIn world i r .json = if (documentOf world r input report usage).withinLimit
          then .ok (exitStatus report) else .error (.numeral .tooLongToWrite) := by
  obtain ⟨settings, hreport, hstatus⟩ := hreports.exists_statusIn
  have hfails := failsIff_usageOf input.trace
  have htext : textIn world i r .json settings input report = usageOf input.trace >>= fun usage =>
      indented (documentOf world r input report usage) := reportText_json _ _ _ _ _ _ rfl
  rw [hstatus, htext]
  cases hmade : usageOf input.trace with
  | error fault =>
    obtain ⟨hunsized, rfl⟩ := (hfails fault).1 hmade
    exact .inl ⟨hunsized, rfl⟩
  | ok usage =>
    refine .inr ⟨hfails.not_reason_of_ok hmade, usage, rfl, ?_⟩
    show statusOf report (indented (documentOf world r input report usage)) = _
    rw [statusOf_of_failsIff (failsIff_indented _)]
    cases (documentOf world r input report usage).withinLimit with
    | true => rfl
    | false => rfl

end Calls

/-- How a call that comes as far as a report ends in either format. -/
structure EndsWithReport (world : World) (i : Invocation) (r : GasRequest) (input : GasInput) (report : Report) :
    Prop where
  /-- A table fails at an overlong total gas, unless it is quiet and does not show it. -/
  table_eq : statusIn world i r .table = if i.quiet = false ∧ Numeral.TooLong report.totalGas
    then .error (.numeral .tooLongToWrite) else .ok (exitStatus report)
  /-- A document cannot be made of an unsized gas figure. -/
  json_of_unsized : (ParsedTrace.gasValue input.trace).Unsized → statusIn world i r .json = .error .wrongKind
  /-- Any other document fails at an overlong integer. -/
  json_of_sized : ¬ (ParsedTrace.gasValue input.trace).Unsized → ∃ usage, usageOf input.trace = .ok usage
    ∧ statusIn world i r .json = if (documentOf world r input report usage).withinLimit
      then .ok (exitStatus report) else .error (.numeral .tooLongToWrite)
  /-- Of the trace the document has one number, the gas figure of its usage. -/
  withinLimit_eq : ∀ u, (documentOf world r input report (some u)).withinLimit
    = ((documentOf world r input report none).withinLimit && u.gas.withinLimit)
  /-- The formats end alike exactly if the figure has a size and no integer is overlong, or the table fails too. -/
  alike_iff : statusIn world i r .table = statusIn world i r .json
    ↔ ∃ usage, usageOf input.trace = .ok usage
      ∧ ((documentOf world r input report usage).withinLimit = true
        ∨ i.quiet = false ∧ Numeral.TooLong report.totalGas)

theorem Reports.endsWithReport {world : World} {i : Invocation} {r : GasRequest} {input : GasInput} {report : Report}
    (hreports : Reports world i r input report) : EndsWithReport world i r input report := by
  have htable := hreports.statusIn_table
  have hfails := failsIff_usageOf input.trace
  refine ⟨htable, fun hunsized => ?_, fun hsized => ?_, fun u => withinLimit_reportJson_some _ _ _ _ u, ?_⟩
  · rcases hreports.statusIn_json with ⟨-, hjson⟩ | ⟨hsized, -⟩
    · exact hjson
    · exact absurd hunsized hsized
  · rcases hreports.statusIn_json with ⟨hunsized, -⟩ | ⟨-, hjson⟩
    · exact absurd hunsized hsized
    · exact hjson
  · rcases hreports.statusIn_json with ⟨hunsized, hjson⟩ | ⟨-, usage, husage, hjson⟩
    · rw [htable, hjson]
      refine iff_of_false ?_ ?_
      · split
        · exact fun hsame => Fault.noConfusion (Except.error.inj hsame)
        · nofun
      · rintro ⟨usage, husage, -⟩
        exact hfails.not_reason_of_ok husage hunsized
    · rw [htable, hjson, husage]
      cases hwithin : (documentOf world r input report usage).withinLimit with
      | true =>
        -- the total gas is in the document, so the table can be written too
        have hshort := not_tooLong_totalGas_of_withinLimit _ _ _ _ hwithin
        rw [if_neg (fun hlong => hshort hlong.2)]
        exact iff_of_true rfl ⟨usage, rfl, .inl hwithin⟩
      | false =>
        rw [if_neg Bool.false_ne_true]
        constructor
        · intro hsame
          refine ⟨usage, rfl, .inr ?_⟩
          by_contra hwritten
          rw [if_neg hwritten] at hsame
          cases hsame
        · rintro ⟨shown, hshown, hends⟩
          cases hshown
          rw [hwithin] at hends
          exact if_pos (hends.resolve_left Bool.false_ne_true)

/-- How an analysis ends in either format. -/
structure EndsInFormats (world : World) (i : Invocation) (r : GasRequest) : Prop where
  without_report : (∀ input report, ¬ Reports world i r input report) →
    statusIn world i r .table = statusIn world i r .json
  with_report : ∀ input report, Reports world i r input report → EndsWithReport world i r input report

/-- **Usage of any document.** The usage of a document is recorded under the name of its function, or there is none,
    and then all stays as it is, with one exception: recording fails if a list or an object that is not empty stands
    in place of the gas figure. A call that analyses a contract ends alike in both formats, but for this exception
    and for integers that only the document shows and that take too many digits. -/
theorem records_usage_and_ends (ledger : UsageLedger) (document : Json) (world : World) (i : Invocation)
    (r : GasRequest) : ledger.RecordsOrFails document ∧ EndsInFormats world i r :=
  ⟨ledger.recordsOrFails document, statusIn_of_not_reports, fun _ _ hreports => hreports.endsWithReport⟩

/-! ## A list in place of a figure -/

/-- A trace whose gas figure is a list. -/
def listFigure : String :=
  "\x7b\"gasUsed\": [1]\x7d"

/-- The name and the only number of a document with one field that is a list. -/
def soleList? : Except Json.ReadError Json → Option (String × Int)
  | .ok (.obj [(name, .arr [.int value])]) => some (name, value)
  | _ => none

theorem eq_of_soleList? {made : Except Json.ReadError Json} {name : String} {value : Int}
    (hsole : soleList? made = some (name, value)) : made = .ok (.obj [(name, .arr [.int value])]) := by
  unfold soleList? at hsole
  split at hsole
  · cases hsole
    rfl
  · cases hsole

theorem read_listFigure :
    Json.read (unifyLineEnds listFigure) = .ok (.obj [("gasUsed", .arr [.int 1])]) :=
  eq_of_soleList? (by decide +kernel)

/-- A folder with an artifact, a source file and this trace. -/
def tracedFolder : World :=
  { folderOf "abcd" with
    file := fun path => if path = "t.json" then .content listFigure.toUTF8 else (folderOf "abcd").file path }

/-- The analysis of these files. -/
def tracedAnalysis : GasRequest :=
  { folderAnalysis with trace := some "t.json" }

/-- A quiet call. -/
def quietCall : Invocation :=
  ⟨false, false, true, none⟩

theorem exists_reports_tracedFolder : ∃ input report, Reports tracedFolder quietCall tracedAnalysis input report
    ∧ input.trace = .obj [("gasUsed", .arr [.int 1])] := by
  obtain ⟨contract, hloaded, hcode, hmap, hfilter⟩ := exists_ofFile_storageRead
  have htext : tracedFolder.text tracedAnalysis.source = .ok (unifyLineEnds "abcd") := by
    have hfile : tracedFolder.file tracedAnalysis.source = .content "abcd".toUTF8 := file_folderOf "abcd"
    rw [World.text, hfile, FileState.text?_content]
  have htrace : tracedFolder.document "t.json" = .ok (.obj [("gasUsed", .arr [.int 1])]) :=
    (FileState.holds_content read_listFigure).json _
  have hinput : tracedAnalysis.input tracedFolder
      = .ok ⟨contract, unifyLineEnds "abcd", .obj [("gasUsed", .arr [.int 1])]⟩ :=
    bind_eq_ok_iff.2 ⟨contract, hloaded, bind_eq_ok_iff.2 ⟨unifyLineEnds "abcd", htext,
      bind_eq_ok_iff.2 ⟨_, htrace, rfl⟩⟩⟩
  obtain ⟨report, hreport⟩ : ∃ report, Report.analyze Settings.standard (.text "54")
      (SourceMap.ofText (some "3:1:0")) (unifyLineEnds "abcd")
      (Report.traceOf Settings.standard (.obj [("gasUsed", .arr [.int 1])])) none = .ok report := by
    rw [Report.exists_report_iff]
    decide +kernel
  refine ⟨_, report, ⟨rfl, hinput, Settings.standard, rfl, ?_⟩, rfl⟩
  have hdeployed : tracedAnalysis.creation = false := rfl
  rw [GasRequest.reportOf, Session.reportOf, hfilter, hdeployed, if_neg Bool.false_ne_true, if_neg Bool.false_ne_true,
    hcode, hmap]
  exact hreport

/-- A list in place of the gas figure cannot be recorded. Of the analysis with this trace a table can be made, but
    a document cannot, and the fault goes through to the caller. -/
theorem json_escapes_listFigure :
    (UsageLedger.record [] (ParsedTrace.ofJson none (.obj [("gasUsed", .arr [.int 1])]))).2 = .error .wrongKind
      ∧ (∃ status, (execute tracedFolder ["-q", "analyze", "T.json", "-s", "T.sol", "-t", "t.json"]).status
        = .ok status)
      ∧ (execute tracedFolder ["-q", "analyze", "T.json", "-s", "T.sol", "-t", "t.json", "-f", "json"]).status
        = .error .wrongKind := by
  obtain ⟨input, report, hreports, htrace⟩ := exists_reports_tracedFolder
  have hunsized : (ParsedTrace.gasValue input.trace).Unsized := by
    rw [htrace]
    exact .arr (List.cons_ne_nil _ _)
  refine ⟨rfl, ⟨exitStatus report, ?_⟩, ?_⟩
  · have htable := hreports.statusIn_table
    rw [if_neg (fun hlong => Bool.false_ne_true hlong.1.symm)] at htable
    exact htable
  · rcases hreports.statusIn_json with ⟨-, hjson⟩ | ⟨hsized, -⟩
    · exact hjson
    · exact absurd hunsized hsized

end CommandLine

end EvmScope
