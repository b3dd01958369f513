import EvmScope.CommandLine.Execution
import EvmScope.Proofs.Artifact.Refusal
import EvmScope.Proofs.File

set_option autoImplicit false

/-! # How the program ends on a refused artifact

Commands read their artifact before anything else. If it is refused, they end with the status of a failure
and one line that says why; the artifact fault is one of those that have a code. The faults that
come of a document that breaks the reading, or of a contract that cannot be listed, have none and go
through to the caller, so the program ends without a status and without a word. -/

namespace EvmScope

theorem Artifact.ofFile_eq_load {file : FileState} {document : Json} {levels : Nat}
    (hfile : file.Holds document levels) (path : String) (selector : Option String) :
    ofFile path file selector levels = load document (PathName.stem path) selector := by
  have hjson := hfile.json (.artifact (.unreadable (PathName.normal path)))
  obtain ⟨bytes, text, rfl, -, -⟩ := hfile
  simp only [ofFile, hjson]
  rfl

namespace CommandLine

/-- The path of the artifact that a command reads, and the selector of the contract in it. -/
def Command.artifact? : Command → Option (String × Option String)
  | analyze r => some (r.artifact, r.contract)
  | state r => some (r.artifact, r.contract)
  | config => none

/-- The words of a call ask for a command, and its settings can be read. -/
def Asks (world : World) (words : List String) (command : Command) : Prop :=
  ∃ i settings, Invocation.read words = .ok i ∧ i.version = false ∧ i.command = some command
    ∧ i.settings world = .ok settings

/-- A call that was given up on a fault with a code: nothing is printed or written, and the last line of
    the notes tells of the fault. -/
def EndsWithLine (o : Outcome) (fault : Fault) : Prop :=
  o.status = .ok exitFailure ∧ o.output = "" ∧ o.file = none
    ∧ ∃ before, o.notes = before ++ errorLine fault

/-- A fault went through to the caller. -/
def Escapes (o : Outcome) (fault : Fault) : Prop :=
  o.status = .error fault ∧ o.output = "" ∧ o.file = none

section Commands

variable {world : World} {words : List String} {command : Command} {path : String}
  {selector : Option String} {fault : Fault}

/-- A command whose contract cannot be loaded does nothing else. -/
theorem Command.execute_of_unloaded (hartifact : command.artifact? = some (path, selector))
    (herror : Artifact.ofFile path (world.file path) selector world.levels = .error fault) (settings : Settings)
    (quiet : Bool) : command.execute world settings quiet = .ofFault fault := by
  cases command with
  | analyze r =>
    obtain ⟨rfl, rfl⟩ := Prod.mk.inj (Option.some.inj hartifact)
    have hinput : r.input world = .error fault := by
      unfold GasRequest.input
      rw [herror]
      rfl
    simp only [execute, GasRequest.execute, hinput]
  | state r =>
    obtain ⟨rfl, rfl⟩ := Prod.mk.inj (Option.some.inj hartifact)
    simp only [execute, StateRequest.execute, herror]
  | config => cases hartifact

theorem execute_of_asks (hasks : Asks world words command) :
    ∃ settings quiet notes,
      execute world words = (command.execute world settings quiet).withNotes notes := by
  obtain ⟨i, settings, hread, hversion, hcommand, hsettings⟩ := hasks
  refine ⟨settings, i.quiet, if i.noBanner || i.quiet then "" else banner ++ "\n", ?_⟩
  simp only [execute, hread, Invocation.execute, hversion, hsettings, hcommand]
  rfl

theorem execute_of_unloaded (hasks : Asks world words command)
    (hartifact : command.artifact? = some (path, selector))
    (herror : Artifact.ofFile path (world.file path) selector world.levels = .error fault) :
    ∃ notes, execute world words = (Outcome.ofFault fault).withNotes notes := by
  obtain ⟨settings, quiet, notes, hexecute⟩ := execute_of_asks hasks
  rw [Command.execute_of_unloaded hartifact herror] at hexecute
  exact ⟨notes, hexecute⟩

/-- A fault with a code ends the call with a line. -/
theorem endsWithLine_of_refusal (hasks : Asks world words command)
    (hartifact : command.artifact? = some (path, selector))
    (herror : Artifact.ofFile path (world.file path) selector world.levels = .error fault)
    (hrefusal : fault.IsRefusal) : EndsWithLine (execute world words) fault := by
  obtain ⟨notes, hexecute⟩ := execute_of_unloaded hasks hartifact herror
  obtain ⟨cause, rfl⟩ := hrefusal
  rw [hexecute]
  exact ⟨rfl, rfl, rfl, notes, rfl⟩

theorem escapes_of_failsOtherwise {document : Json} (hasks : Asks world words command)
    (hartifact : command.artifact? = some (path, selector))
    (hfile : (world.file path).Holds document world.levels)
    (hfails : Artifact.FailsOtherwise document selector fault) :
    Escapes (execute world words) fault := by
  have herror : Artifact.ofFile path (world.file path) selector world.levels = .error fault := by
    rw [Artifact.ofFile_eq_load hfile]
    exact Artifact.load_of_failsOtherwise hfails _
  obtain ⟨notes, hexecute⟩ := execute_of_unloaded hasks hartifact herror
  rw [hexecute]
  cases hfails with
  | broken _ => exact ⟨rfl, rfl, rfl⟩
  | unlistable _ => exact ⟨rfl, rfl, rfl⟩

end Commands

/-- What can come of loading a contract from a document, given as it is, in a file, or to a command. -/
structure LoadsOrRefuses (document : Json) (selector : Option String) : Prop where
  /-- The contracts are read exactly if the document has a known form and breaks nothing. -/
  reads_iff : ∀ fallback : String, (∃ found, Artifact.contracts document fallback = .ok found)
    ↔ Artifact.Recognised document ∧ ¬ Artifact.Breaks document
  /-- Otherwise the document is refused, unless it breaks the reading. -/
  contracts_iff : ∀ (fallback : String) (fault : Fault),
    Artifact.contracts document fallback = .error fault ∧ ¬ fault.IsRefusal
      ↔ Artifact.Breaks document ∧ fault = .noFields
  /-- A contract is loaded from a decoded object or it is refused, unless it breaks the reading or cannot
      be listed. -/
  object_iff : ∀ (fields : List (String × Json)) (fault : Fault), document = .obj fields →
    (Artifact.ofDocument document selector = .error fault ∧ ¬ fault.IsRefusal
      ↔ Artifact.FailsOtherwise document selector fault)
  /-- The same holds of a file with the document, object or not. -/
  file_iff : ∀ (path : String) (file : FileState) (levels : Nat) (fault : Fault),
    file.Holds document levels → (Artifact.ofFile path file selector levels = .error fault ∧ ¬ fault.IsRefusal
      ↔ Artifact.FailsOtherwise document selector fault)
  /-- A call whose artifact is refused ends with the status of a failure and an error line. -/
  ends_with_line : ∀ (world : World) (words : List String) (command : Command) (path : String)
    (fault : Fault), Asks world words command → command.artifact? = some (path, selector) →
    Artifact.ofFile path (world.file path) selector world.levels = .error fault → fault.IsRefusal →
    EndsWithLine (execute world words) fault
  /-- Any other fault goes through to the caller. -/
  escapes : ∀ (world : World) (words : List String) (command : Command) (path : String)
    (fault : Fault), Asks world words command → command.artifact? = some (path, selector) →
    (world.file path).Holds document world.levels → Artifact.FailsOtherwise document selector fault →
    Escapes (execute world words) fault

/-- **A document is read or refused, with two exceptions.** Whatever the document and the selector are,
    loading a contract fails with an artifact fault, and then a call of the program ends with the status
    of a failure and an error line. But where a value is asked for fields that it does not have, or where
    a single contract that is not wanted has no name in text, another fault comes up and goes through to
    the caller. -/
theorem loads_or_refuses (document : Json) (selector : Option String) :
    LoadsOrRefuses document selector where
  reads_iff := Artifact.exists_contracts_ok_iff document
  contracts_iff := Artifact.contracts_foreign_iff document
  object_iff _ fault _ := by
    rw [Artifact.ofDocument_eq_load]
    exact Artifact.load_foreign_iff document Artifact.defaultName selector fault
  file_iff path _ _ fault hfile := by
    rw [Artifact.ofFile_eq_load hfile]
    exact Artifact.load_foreign_iff document (PathName.stem path) selector fault
  ends_with_line _ _ _ _ _ := endsWithLine_of_refusal
  escapes _ _ _ _ _ := escapes_of_failsOtherwise

/-! ## Documents that are not refused -/

/-- A compilation whose contracts are a number. -/
def brokenText : String :=
  "\x7b\"contracts\": 5\x7d"

/-- The name and the number of a document with one field. -/
def soleNumber? : Except Json.ReadError Json → Option (String × Int)
  | .ok (.obj [(name, .int value)]) => some (name, value)
  | _ => none

theorem eq_of_soleNumber? {made : Except Json.ReadError Json} {name : String} {value : Int}
    (hsole : soleNumber? made = some (name, value)) : made = .ok (.obj [(name, .int value)]) := by
  unfold soleNumber? at hsole
  split at hsole
  · cases hsole
    rfl
  · cases hsole

theorem read_brokenText :
    Json.read (unifyLineEnds brokenText) = .ok (.obj [("contracts", .int 5)]) :=
  eq_of_soleNumber? (by decide +kernel)

/-- A folder with this artifact. -/
def brokenFolder : World where
  environment := []
  settingsFile := .missing
  file := fun path => if path = "a.json" then .content brokenText.toUTF8 else .missing
  now := ⟨0⟩
  elapsed := 0

/-- The storage of the contract in the artifact. -/
def stateCall : Invocation :=
  ⟨false, false, true, some (.state ⟨"a.json", none, [], none, .table⟩)⟩

theorem exists_settings_stateCall : ∃ settings, stateCall.settings brokenFolder = .ok settings := by
  have hread : (stateCall.settings brokenFolder).toOption.isSome = true := by decide +kernel
  cases hsettings : stateCall.settings brokenFolder with
  | error fault =>
    rw [hsettings] at hread
    cases hread
  | ok settings => exact ⟨settings, rfl⟩

/-- A compilation whose contracts are a number, as it is and in a file for the program, and a single
    contract whose name is a number. -/
theorem load_escapes_refusal :
    Artifact.contracts (.obj [("contracts", .int 5)]) Artifact.defaultName = .error .noFields
      ∧ Artifact.ofDocument (.obj [("abi", .arr []), ("contractName", .int 5)]) (some "C")
        = .error .wrongKind
      ∧ (execute brokenFolder ["-q", "state", "a.json"]).status = .error .noFields := by
  refine ⟨rfl, rfl, ?_⟩
  obtain ⟨settings, hsettings⟩ := exists_settings_stateCall
  have hasks : Asks brokenFolder ["-q", "state", "a.json"]
      (.state ⟨"a.json", none, [], none, .table⟩) :=
    ⟨stateCall, settings, rfl, rfl, rfl, hsettings⟩
  have hfile : (brokenFolder.file "a.json").Holds (.obj [("contracts", .int 5)]) brokenFolder.levels :=
    FileState.holds_content read_brokenText
  have hbreaks : Artifact.Breaks (.obj [("contracts", .int 5)]) :=
    .inl ⟨rfl, .inr (.inl ⟨rfl, fun fields hfields => by cases hfields⟩)⟩
  exact (escapes_of_failsOtherwise hasks rfl hfile (.broken hbreaks)).1

end CommandLine

end EvmScope
