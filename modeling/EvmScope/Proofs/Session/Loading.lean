import EvmScope.Artifact.Selection
import EvmScope.Proofs.Storage.Loading
import EvmScope.Session

set_option autoImplicit false

/-! # When a session cannot load a contract

A session does not load a contract into the history that it has, but into an empty one, and it keeps what
becomes of that even if the contract cannot be loaded. So a failure costs a session all that was recorded.
It does not tell its handlers, and nothing but the history changes. -/

namespace EvmScope.Session

variable {η : Type}

/-- How loading a contract ends: an empty history cannot take it, or it takes it and its variables are
    given their first values. -/
inductive StateEnds (s : Session η) (contract : Contract) :
    Move η (Except Fault (Option Snapshot)) → Prop
  | failed {left : History} {fault : Fault}
    (hwhy : Layout.Unreadable contract.storageLayout ∨ History.Itemless contract.abi)
    (hremains : History.empty.Remains contract.storageLayout contract.name left) :
    StateEnds s contract ⟨{ s with history := left }, [], .error fault⟩
  | loaded {declared : List StorageVariable} {first : Option Snapshot} {events : List SessionEvent}
    (hsound : ¬ (Layout.Unreadable contract.storageLayout ∨ History.Itemless contract.abi))
    (hresult : (History.empty.loadLayout contract.storageLayout contract.name contract.abi).result
      = .ok declared) :
    StateEnds s contract
      ⟨{ s with history := (History.empty.loadLayout contract.storageLayout contract.name
          contract.abi).state.deploy.state }, events, .ok first⟩

theorem loadState_ends (s : Session η) (contract : Contract) :
    StateEnds s contract (s.loadState contract) := by
  have hwhy := History.empty.exists_loadLayout_error_iff contract.storageLayout contract.name
    contract.abi
  unfold loadState
  dsimp only
  cases hresult : (History.empty.loadLayout contract.storageLayout contract.name
      contract.abi).result with
  | error fault =>
    obtain ⟨hevents, hremains⟩ := History.remains_of_loadLayout_error _ _ _ _ hresult
    simp only [onHistory, Transition.lift, hevents, List.map_nil]
    exact .failed (hwhy.1 ⟨fault, hresult⟩) hremains
  | ok declared =>
    obtain ⟨first, hfirst⟩ := History.exists_deploy_ok
      (History.empty.loadLayout contract.storageLayout contract.name contract.abi).state
    simp only [onHistory, Transition.lift, hfirst]
    refine .loaded (fun hflaw => ?_) hresult
    obtain ⟨fault, hfault⟩ := hwhy.2 hflaw
    rw [hresult] at hfault
    cases hfault

section Load

variable {s : Session η} {contract : Contract}

theorem loadState_ok (hloaded : ∃ first, (s.loadState contract).result = .ok first) :
    ∃ declared, (History.empty.loadLayout contract.storageLayout contract.name contract.abi).result
        = .ok declared
      ∧ (s.loadState contract).state = { s with
        history := (History.empty.loadLayout contract.storageLayout contract.name
          contract.abi).state.deploy.state } := by
  obtain ⟨first, hfirst⟩ := hloaded
  have hends := s.loadState_ends contract
  generalize s.loadState contract = move at hends hfirst
  cases hends with
  | failed hwhy hremains => cases hfirst
  | @loaded declared _ _ hsound hresult => exact ⟨declared, hresult, rfl⟩

theorem exists_loadState_error_iff : (∃ fault, (s.loadState contract).result = .error fault)
    ↔ Layout.Unreadable contract.storageLayout ∨ History.Itemless contract.abi := by
  have hends := s.loadState_ends contract
  generalize s.loadState contract = move at hends
  cases hends with
  | failed hwhy hremains => exact iff_of_true ⟨_, rfl⟩ hwhy
  | loaded hsound hresult =>
    refine iff_of_false ?_ hsound
    rintro ⟨fault, hfault⟩
    cases hfault

theorem remains_of_loadState_error {fault : Fault}
    (herror : (s.loadState contract).result = .error fault) :
    (s.loadState contract).events = []
      ∧ ∃ left, History.empty.Remains contract.storageLayout contract.name left
        ∧ (s.loadState contract).state = { s with history := left } := by
  have hends := s.loadState_ends contract
  generalize s.loadState contract = move at hends herror
  cases hends with
  | failed hwhy hremains => exact ⟨rfl, _, hremains, rfl⟩
  | loaded hsound hresult => cases herror

end Load

/-- What holds of a contract that may fail to be loaded: into any history, and into a session. -/
structure LoadsOrRemains (s : Session η) (contract : Contract) : Prop where
  /-- It cannot be loaded exactly if its layout cannot be read or its descriptors have no items. -/
  layout_error_iff : ∀ h : History,
    (∃ fault, (h.loadLayout contract.storageLayout contract.name contract.abi).result = .error fault)
      ↔ Layout.Unreadable contract.storageLayout ∨ History.Itemless contract.abi
  /-- A failure tells nothing. The history is as before, or its variables and its name are replaced and
      the rest of it is as before. -/
  layout_remains : ∀ (h : History) (fault : Fault),
    (h.loadLayout contract.storageLayout contract.name contract.abi).result = .error fault →
    (h.loadLayout contract.storageLayout contract.name contract.abi).events = []
      ∧ h.Remains contract.storageLayout contract.name
        (h.loadLayout contract.storageLayout contract.name contract.abi).state
  /-- A session cannot load the same contracts. -/
  state_error_iff : (∃ fault, (s.loadState contract).result = .error fault)
    ↔ Layout.Unreadable contract.storageLayout ∨ History.Itemless contract.abi
  /-- A failure tells nothing here either. The history that the session had is gone, and all else of the
      session is as before. -/
  state_remains : ∀ fault : Fault, (s.loadState contract).result = .error fault →
    (s.loadState contract).events = []
      ∧ ∃ left, History.empty.Remains contract.storageLayout contract.name left
        ∧ (s.loadState contract).state = { s with history := left }

/-- **What a contract that cannot be loaded leaves behind.** Whatever the layout and the descriptors of a
    contract are, no event is fired if it cannot be loaded. A history into which it was loaded stays as
    it is if the layout is to blame; if the descriptors are, it has the new variables and the new name.
    A session is left with what this makes of an empty history. -/
theorem loadsOrRemains (s : Session η) (contract : Contract) : s.LoadsOrRemains contract where
  layout_error_iff h := h.exists_loadLayout_error_iff _ _ _
  layout_remains h _ := h.remains_of_loadLayout_error _ _ _
  state_error_iff := exists_loadState_error_iff
  state_remains _ := remains_of_loadState_error

/-- The document of a contract with one variable. -/
def counterDocument : Json :=
  .obj
    [ ("contractName", .str "Counter"), ("abi", .arr []),
      ("storageLayout", .arr [.obj [("label", .str "count"), ("slot", .str "0")]]) ]

/-- The document of a contract with a number in place of the entries of its layout. -/
def listlessDocument : Json :=
  .obj [("contractName", .str "Other"), ("abi", .arr []), ("storageLayout", .obj [("storage", .int 5)])]

/-- The document of a contract with a number in place of its descriptors. -/
def itemlessDocument : Json :=
  .obj [("contractName", .str "Other"), ("abi", .int 5)]

/-- After a counter with its first value a session is to load a contract without a list of entries: its
    snapshot and the contract's name are lost. Loading one without descriptors into the history of the
    counter replaces its variables and its name. -/
theorem loadState_loses_history :
    ∃ counter listless itemless : Contract,
      Artifact.ofDocument counterDocument none = .ok counter
      ∧ Artifact.ofDocument listlessDocument none = .ok listless
      ∧ Artifact.ofDocument itemlessDocument none = .ok itemless
      ∧ let s := ((Session.begin Settings.standard Hub.empty : Session Unit).loadState counter).state
        (s.loadState listless).result = .error .wrongKind
        ∧ s.history.snapshots.length = 1
        ∧ (s.loadState listless).state.history.snapshots = []
        ∧ s.history.contractName = .str "Counter"
        ∧ (s.loadState listless).state.history.contractName = .str ""
        ∧ let reloaded := s.history.loadLayout itemless.storageLayout itemless.name itemless.abi
          reloaded.result = .error .wrongKind
          ∧ s.history.layout.map (·.label) = ["count"]
          ∧ reloaded.state.layout = []
          ∧ reloaded.state.contractName = .str "Other" :=
  ⟨_, _, _, rfl, rfl, rfl, rfl, rfl, rfl, rfl, rfl, rfl, rfl, rfl, rfl⟩

end EvmScope.Session
