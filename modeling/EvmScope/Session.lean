import EvmScope.Artifact.Contract
import EvmScope.Gas.Usage
import EvmScope.Hotspot.Report
import EvmScope.Simulation.Call
import EvmScope.Tour

set_option autoImplicit false

/-! # Sessions

A session holds what belongs to the view of one contract: a tour, a storage history, the gas usage of
calls, and the handlers that are told what happens. A new analysis ends the tour under way before it
starts its own. Operations return the events they fire, in order; `recipients` says who is told. -/

namespace EvmScope

/-- What a session tells its handlers. -/
inductive SessionEvent
  | tour (event : TourEvent)
  | history (event : HistoryEvent)

/-- The topic of an event. -/
def SessionEvent.topic : SessionEvent → Topic
  | tour event => event.topic
  | history event => event.topic

/-- The state of a session whose handlers are of some type. -/
structure Session (η : Type) where
  settings : Settings
  hub : Hub η
  tour : Tour
  history : History
  usage : UsageLedger
  /-- The report of the last analysis that was made. -/
  lastReport : Option Report

namespace Session

variable {η α : Type}

/-- A step of a session. -/
abbrev Move (η α : Type) := Transition (Session η) SessionEvent α

/-- A fresh session. -/
def begin (settings : Settings) (hub : Hub η) : Session η :=
  ⟨settings, hub, .idle, History.empty, [], none⟩

/-- Those who are told of an event. -/
def recipients (s : Session η) (event : SessionEvent) : List η :=
  s.hub.handlers event.topic

/-- A move of the tour as a move of the session. -/
def onTour (s : Session η) (move : TourMove α) : Move η α :=
  move.lift (fun tour => { s with tour := tour }) .tour

/-- A move of the history as a move of the session. -/
def onHistory (s : Session η) (move : HistoryMove α) : Move η (Except Fault α) :=
  move.lift (fun history => { s with history := history }) .history

/-! ## Gas -/

/-- The events of ending one tour and beginning another over a report, and the tour after them. -/
def freshTour (tour : Tour) (hotspots : List Hotspot) : TourMove Unit :=
  let finished := tour.finish
  if hotspots.isEmpty then ⟨.idle, finished.events, ()⟩
  else
    let started := Tour.start .idle hotspots
    ⟨started.state, finished.events ++ started.events, ()⟩

/-- Rank the hotspots of a contract and start a tour over them; `creation` asks for the code that creates
    the contract instead of the deployed code. -/
def analyze (s : Session η) (contract : Contract) (source : String) (trace : Json)
    (creation : Bool) : Move η (Except Fault Report) :=
  let code := if creation then contract.creationCode else contract.runtimeCode
  let map := if creation then contract.creationMap else contract.runtimeMap
  match Report.analyze s.settings (.text code) (SourceMap.ofText (some map)) source
      (Report.traceOf s.settings trace) (Contract.fileFilter contract.fileIndex) with
  | .error fault => .stay s (.error fault)
  | .ok report =>
    let move := s.onTour (freshTour s.tour report.hotspots)
    ⟨{ move.state with lastReport := some report }, move.events, .ok report⟩

/-- Record the gas usage that a trace shows. -/
def recordUsage (s : Session η) (trace : Json) : Move η (Except Fault (Option GasUsage)) :=
  let (usage, result) := s.usage.record (ParsedTrace.ofJson none trace)
  .stay { s with usage := usage } result

/-! ## Storage -/

/-- Begin the history of a contract with the first values of its variables. What was there before is
    dropped even if the layout is of no use. -/
def loadState (s : Session η) (contract : Contract) : Move η (Except Fault (Option Snapshot)) :=
  let loaded := History.empty.loadLayout contract.storageLayout contract.name contract.abi
  match loaded.result with
  | .error fault => s.onHistory ⟨loaded.state, loaded.events, .error fault⟩
  | .ok _ =>
    let deployed := loaded.state.deploy
    s.onHistory ⟨deployed.state, loaded.events ++ deployed.events, deployed.result⟩

/-- Replay a trace on the history. -/
def applyTrace (s : Session η) (trace hash : Json) : Move η (Except Fault Snapshot) :=
  s.onHistory (s.history.replay s.settings trace hash)

/-- Simulate a call of the contract whose history this is, over a given state or the current one. -/
def simulate (s : Session η) (name arguments : Json) (given : Option Projection)
    (memory : Nat := Argument.standardMemory) : Move η (Except Fault Simulation) :=
  match AbiFunction.ofAbi (.arr s.history.abi) with
  | .error fault => .stay s (.error fault)
  | .ok functions => s.onHistory (Simulation.run s.history functions name arguments given memory)

/-! ## Ending -/

/-- End the tour and drop all handlers. -/
def close (s : Session η) : Move η Unit :=
  let move := s.onTour s.tour.finish
  ⟨{ move.state with hub := Hub.empty }, move.events, ()⟩

end Session

end EvmScope
