import EvmScope.Proofs.Session.Loading
import EvmScope.Proofs.Simulation.Commitment
import EvmScope.Proofs.Storage.History
import EvmScope.Proofs.Storage.InStep
import EvmScope.Session

set_option autoImplicit false

/-! # Simulated changes between traces

A simulated change reaches the words that are held only if one variable has the slot to itself and the
new value is a word. So every variable of a history is in step, or it was left behind by a simulated
change and named by no change since. The first is kept by traces and by the simulated changes that
`StateChange.KeepsStep` describes; from the second a variable comes back with the first trace that names
it. -/

namespace EvmScope

/-! ## Simulated changes -/

/-- A simulated change keeps a variable in step: it is another variable's and leaves the word of the slot
    alone, or it gives a word to the variable that has the slot to itself. -/
def StateChange.KeepsStep (declared : List StorageVariable) (v : StorageVariable) (c : StateChange) :
    Prop :=
  (c.key ≠ v.label ∧ (c.slot = v.slotText → Layout.variablesAt declared c.slot ≠ [v]))
  ∨ (c.key = v.label ∧ c.slot = v.slotText ∧ Layout.variablesAt declared c.slot = [v]
    ∧ ∃ n, Word.ofText c.newValue = .ok n ∧ Numeral.read? .hexadecimal c.newValue = some n)

/-- Whether a snapshot is that of a simulated call. -/
def Snapshot.IsSimulated (s : Snapshot) : Prop :=
  s.context.lookup "type" = some (.str "simulation")

/-- A variable was left behind: among some changes is a simulated one that does not keep it in step, and
    no change after that one names it. -/
def StorageVariable.LeftBehind (declared : List StorageVariable)
    (past : List (Snapshot × StateChange)) (v : StorageVariable) : Prop :=
  ∃ earlier s c later, past = earlier ++ (s, c) :: later ∧ s.IsSimulated
    ∧ ¬ c.KeepsStep declared v ∧ ∀ d ∈ later, d.2.key ≠ v.label

namespace StorageVariable

variable {declared : List StorageVariable} {past : List (Snapshot × StateChange)}
  {v : StorageVariable}

theorem LeftBehind.append (hleft : v.LeftBehind declared past)
    (more : List (Snapshot × StateChange)) (hmore : ∀ d ∈ more, d.2.key ≠ v.label) :
    v.LeftBehind declared (past ++ more) := by
  obtain ⟨earlier, s, c, later, rfl, hsimulated, hkeeps, hlater⟩ := hleft
  refine ⟨earlier, s, c, later ++ more, ?_, hsimulated, hkeeps, fun d hd => ?_⟩
  · rw [List.append_assoc, List.cons_append]
  · rcases List.mem_append.1 hd with hd | hd
    · exact hlater d hd
    · exact hmore d hd

end StorageVariable

namespace History

/-- All changes in their order, each with its snapshot. -/
def changes (h : History) : List (Snapshot × StateChange) :=
  h.snapshots.flatMap (fun s => s.changes.map (fun c => (s, c)))

theorem changes_of_snapshots {h next : History} {s : Snapshot}
    (hsnapshots : next.snapshots = h.snapshots ++ [s]) :
    next.changes = h.changes ++ s.changes.map (fun c => (s, c)) := by
  simp [changes, hsnapshots]

/-- The word of a variable's slot is adopted from no change that is another variable's. -/
theorem at_adopt_of_ne {h : History} {words : Words} {c : StateChange} {v : StorageVariable}
    (hv : v ∈ h.layout) (hslot : c.slot = v.slotText → h.variablesAt c.slot ≠ [v]) :
    (h.adopt words c).at v.slotText = words.at v.slotText := by
  unfold adopt
  by_cases hshared : 1 < (h.variablesAt c.slot).length
  · rw [if_pos hshared]
  · rw [if_neg hshared]
    have hne : c.slot ≠ v.slotText := by
      intro heq
      have hmem : v ∈ h.variablesAt c.slot := by
        rw [variablesAt, heq]
        exact (Layout.mem_variablesAt_hex _ _ _).2 ⟨hv, rfl⟩
      -- the slot has no two variables, and so no other one
      have hone : (h.variablesAt c.slot).length = 1 := by
        have hpos := List.length_pos_of_mem hmem
        omega
      obtain ⟨only, honly⟩ := List.length_eq_one_iff.1 hone
      rw [honly, List.mem_singleton] at hmem
      exact hslot heq (hmem ▸ honly)
    cases Word.ofText c.newValue with
    | error fault => rfl
    | ok n =>
      dsimp only
      rw [Words.at, Words.at, Std.HashMap.getD_insert, beq_false_of_ne hne,
        if_neg Bool.false_ne_true]

theorem at_adopt_of_alone {h : History} {words : Words} {c : StateChange} {v : StorageVariable}
    {n : Int} (halone : h.variablesAt c.slot = [v]) (hslot : c.slot = v.slotText)
    (hword : Word.ofText c.newValue = .ok n) : (h.adopt words c).at v.slotText = n := by
  have hshared : ¬ 1 < (h.variablesAt c.slot).length := by
    rw [halone]
    exact Nat.lt_irrefl 1
  unfold adopt
  rw [if_neg hshared, hword]
  dsimp only
  rw [Words.at, hslot, Std.HashMap.getD_insert_self]

/-- One simulated change keeps a variable in step or leaves it behind. -/
theorem settled_adopt {h : History} {words : Words} {state : Projection}
    {past : List (Snapshot × StateChange)} {s : Snapshot} {v : StorageVariable} (c : StateChange)
    (hv : v ∈ h.layout) (hsimulated : s.IsSimulated)
    (hsettled : v.InStep h.layout words state ∨ v.LeftBehind h.layout past) :
    v.InStep h.layout (h.adopt words c) (Projection.apply s.id state c)
      ∨ v.LeftBehind h.layout (past ++ [(s, c)]) := by
  by_cases hkeeps : c.KeepsStep h.layout v
  · rcases hkeeps with ⟨hkey, hslot⟩ | ⟨hkey, hslot, halone, n, hword, hread⟩
    · rcases hsettled with hstep | hleft
      · refine Or.inl (hstep.of_unchanged ?_ ?_)
        · exact Projection.number?_foldl_apply_of_ne s.id [c] state v.label (by simpa using hkey)
        · rw [at_adopt_of_ne hv hslot]
      · exact Or.inr (hleft.append [(s, c)] (by simpa using hkey))
    · left
      have hhere : Layout.variablesAt h.layout (Numeral.hex v.slot) = [v] := by
        rw [← halone, hslot]
        rfl
      have hshown : Layout.shown h.layout v n = n := Layout.shown_of_alone hhere n
      unfold StorageVariable.InStep
      rw [at_adopt_of_alone halone hslot hword, hshown, Projection.number?, Projection.apply, hkey,
        Table.lookup_put_self]
      exact hread
  · exact Or.inr ⟨past, s, c, [], rfl, hsimulated, hkeeps, fun d hd => absurd hd List.not_mem_nil⟩

theorem settled_foldl_adopt {h : History} (changes : List StateChange) {words : Words}
    {state : Projection} {past : List (Snapshot × StateChange)} {s : Snapshot} {v : StorageVariable}
    (hv : v ∈ h.layout) (hsimulated : s.IsSimulated)
    (hsettled : v.InStep h.layout words state ∨ v.LeftBehind h.layout past) :
    v.InStep h.layout (changes.foldl h.adopt words) (changes.foldl (Projection.apply s.id) state)
      ∨ v.LeftBehind h.layout (past ++ changes.map (fun c => (s, c))) := by
  induction changes generalizing words state past with
  | nil =>
    rw [List.map_nil, List.append_nil]
    exact hsettled
  | cons c rest ih =>
    have hnext := ih (settled_adopt c hv hsimulated hsettled)
    rw [List.append_assoc] at hnext
    exact hnext

/-! ## Histories -/

/-- Every variable of a history is in step or was left behind. -/
structure Settled (declared : List StorageVariable) (h : History) : Prop where
  layout_eq : h.layout = declared
  settled : ∀ v ∈ declared, v.InStep declared h.words (h.currentState none)
    ∨ v.LeftBehind declared h.changes

variable {declared : List StorageVariable}

theorem settled_deploy {layout name abi : Json} (hproper : Layout.Proper declared)
    (hloaded : (empty.loadLayout layout name abi).result = .ok declared) :
    Settled declared (empty.loadLayout layout name abi).state.deploy.state := by
  obtain ⟨hlayout, hsnapshots, hwords⟩ := loadLayout_ok hloaded
  have hproper' : Layout.Proper (empty.loadLayout layout name abi).state.layout := hlayout ▸ hproper
  obtain ⟨hkept, hrefines⟩ := refines_deploy hproper' hsnapshots hwords
  have hshows := hrefines.state_shows
  rw [hkept, hlayout] at hshows
  refine ⟨hkept.trans hlayout, fun v hv => Or.inl ?_⟩
  have hword := hrefines.words_hold v.slot
  unfold StorageVariable.InStep
  rw [StorageVariable.slotText, hword]
  exact hshows.number?_eq hv

/-- **A trace** is replayed. Afterwards the last words written are held, and a variable is in step, or
    it was left behind before the trace and is not named by it. -/
theorem Settled.replay {h : History} (hh : Settled declared h) (hproper : Layout.Proper declared)
    (settings : Settings) (document : Json) (given : Option String) :
    ∃ s next, (h.replay settings document (Json.ofOption .str given)).result = .ok s
      ∧ (h.replay settings document (Json.ofOption .str given)).state = next
      ∧ Settled declared next
      ∧ (∀ slot w, StorageWrite.last? (recognised settings document) slot = some w →
        next.words.at (Numeral.hex slot) = w.value)
      ∧ ∀ v ∈ declared, v.InStep declared next.words (next.currentState none)
        ∨ (v.LeftBehind declared h.changes ∧ ∀ c ∈ s.changes, c.key ≠ v.label) := by
  obtain ⟨hash, hhash⟩ := exists_hashOf given
    (ParsedTrace.ofJson (some settings.traceLimit) document)
  obtain ⟨r, hrun, hcatches⟩ := Replay.run_catches hproper hash settings.slotOnTop
    h.snapshots.length (ParsedTrace.ofJson (some settings.traceLimit) document).entries hh.settled
  rw [← hh.layout_eq] at hrun
  obtain ⟨s, hresult, hleaves⟩ := replay_of_run hhash hrun
  generalize hnext : (h.replay settings document (Json.ofOption .str given)).state = next at hleaves
  have hafter : ∀ v ∈ declared, v.InStep declared next.words (next.currentState none)
      ∨ (v.LeftBehind declared h.changes ∧ ∀ c ∈ s.changes, c.key ≠ v.label) := by
    intro v hv
    rw [hleaves.words_eq, hleaves.currentState_eq, hleaves.changes_eq]
    simpa using hcatches.settled v hv
  refine ⟨s, next, hresult, rfl, ⟨hleaves.layout_eq.trans hh.layout_eq, fun v hv => ?_⟩, ?_, hafter⟩
  · rcases hafter v hv with hstep | ⟨hleft, hnamed⟩
    · exact Or.inl hstep
    · right
      rw [changes_of_snapshots hleaves.snapshots_eq]
      refine hleft.append _ (fun d hd => ?_)
      obtain ⟨c, hc, rfl⟩ := List.mem_map.1 hd
      exact hnamed c hc
  · rw [hleaves.words_eq]
    exact hcatches.words_last

/-- A history after a simulated call: as it was, or with the changes of the call. -/
def AfterSimulation (h next : History) : Prop :=
  next = h ∨ ∃ changes function values,
    next = (h.addSimulated changes (.obj [("function", function), ("inputs", values)])).state

theorem afterSimulation_run (h : History) (functions : List AbiFunction) (name arguments : Json)
    (given : Option Projection) (memory : Nat) :
    AfterSimulation h (Simulation.run h functions name arguments given memory).state := by
  have hends := Simulation.run_ends h functions name arguments given memory
  generalize Simulation.run h functions name arguments given memory = move at hends
  cases hends with
  | refused fault => exact Or.inl rfl
  | rejected errors herrors => exact Or.inl rfl
  | idle => exact Or.inl rfl
  | committed hmakes => exact Or.inr ⟨_, _, _, rfl⟩

theorem Settled.addSimulated {h : History} (hh : Settled declared h) (changes : List StateChange)
    (function values : Json) :
    Settled declared
      (h.addSimulated changes (.obj [("function", function), ("inputs", values)])).state := by
  obtain ⟨rfl, hsettled⟩ := hh
  refine ⟨rfl, fun v hv => ?_⟩
  obtain ⟨s, hs, hid, hchanges, hsimulated⟩ : ∃ s : Snapshot,
      (h.addSimulated changes (.obj [("function", function), ("inputs", values)])).state.snapshots
        = h.snapshots ++ [s]
      ∧ s.id = h.snapshots.length ∧ s.changes = changes ∧ s.IsSimulated :=
    ⟨_, rfl, rfl, rfl, rfl⟩
  have hafter := settled_foldl_adopt changes hv hsimulated (hsettled v hv)
  rw [currentState_of_snapshots hid hs, changes_of_snapshots hs, hchanges]
  rw [hid] at hafter
  exact hafter

theorem Settled.simulate {h : History} (hh : Settled declared h) (functions : List AbiFunction)
    (name arguments : Json) (given : Option Projection) (memory : Nat) :
    Settled declared (Simulation.run h functions name arguments given memory).state := by
  rcases afterSimulation_run h functions name arguments given memory with
    hsame | ⟨changes, function, values, hadded⟩
  · rw [hsame]
    exact hh
  · rw [hadded]
    exact hh.addSimulated changes function values

end History

/-! ## Sessions -/

/-- What is done to the storage of a session once it is loaded. How much memory there is may differ from
    call to call. -/
inductive StorageCall
  | applyTrace (document : Json) (hash : Option String)
  | simulate (name arguments : Json) (given : Option Projection) (memory : Nat := Argument.standardMemory)

namespace Session

variable {η : Type}

/-- Carry out a call; only whether it succeeds is kept of its result. -/
def perform (s : Session η) : StorageCall → Move η (Except Fault Unit)
  | .applyTrace document hash =>
    (s.applyTrace document (Json.ofOption .str hash)).mapResult (Except.map fun _ => ())
  | .simulate name arguments given memory =>
    (s.simulate name arguments given memory).mapResult (Except.map fun _ => ())

/-- The session after some calls, failed ones included. -/
def afterCalls (s : Session η) (calls : List StorageCall) : Session η :=
  calls.foldl (fun s call => (s.perform call).state) s

variable {declared : List StorageVariable}

theorem settled_perform {s : Session η} (hs : History.Settled declared s.history)
    (hproper : Layout.Proper declared) (call : StorageCall) :
    History.Settled declared (s.perform call).state.history := by
  cases call with
  | applyTrace document hash =>
    obtain ⟨_, next, -, rfl, hsettled, -⟩ := hs.replay hproper s.settings document hash
    exact hsettled
  | simulate name arguments given memory =>
    unfold perform simulate
    cases AbiFunction.ofAbi (.arr s.history.abi) with
    | error fault => exact hs
    | ok functions => exact hs.simulate functions name arguments given memory

theorem settings_perform (s : Session η) (call : StorageCall) :
    (s.perform call).state.settings = s.settings := by
  cases call with
  | applyTrace document hash => rfl
  | simulate name arguments given memory =>
    unfold perform simulate
    cases AbiFunction.ofAbi (.arr s.history.abi) with
    | error fault => rfl
    | ok functions => rfl

theorem settled_afterCalls {s : Session η} (hs : History.Settled declared s.history)
    (hproper : Layout.Proper declared) (calls : List StorageCall) :
    History.Settled declared (s.afterCalls calls).history := by
  induction calls generalizing s with
  | nil => exact hs
  | cons call rest ih => exact ih (settled_perform hs hproper call)

theorem settings_afterCalls (s : Session η) (calls : List StorageCall) :
    (s.afterCalls calls).settings = s.settings := by
  induction calls generalizing s with
  | nil => rfl
  | cons call rest ih => exact (ih _).trans (settings_perform s call)

theorem settings_afterCalls_of_loaded {s : Session η} {contract : Contract}
    (hloaded : ∃ first, (s.loadState contract).result = .ok first) (calls : List StorageCall) :
    ((s.loadState contract).state.afterCalls calls).settings = s.settings := by
  obtain ⟨declared, -, hstate⟩ := loadState_ok hloaded
  rw [settings_afterCalls, hstate]

theorem settled_loadState {s : Session η} {contract : Contract}
    (hloaded : ∃ first, (s.loadState contract).result = .ok first)
    (hproper : Layout.Proper (s.loadState contract).state.history.layout) :
    History.Settled (s.loadState contract).state.history.layout
      (s.loadState contract).state.history := by
  obtain ⟨declared, hdeclared, hstate⟩ := loadState_ok hloaded
  obtain ⟨hlayout, -, -⟩ := History.loadLayout_ok hdeclared
  have hkept : (s.loadState contract).state.history.layout = declared := by
    rw [hstate]
    exact (History.layout_deploy _).trans hlayout
  rw [hkept] at hproper ⊢
  rw [hstate]
  exact History.settled_deploy hproper hdeclared

/-- **Real writes after simulated ones.** Load a contract with a proper layout and then apply traces and
    simulate calls in any order, failing ones included. A trace that is applied next succeeds, and every
    variable to whose slot it writes shows its part of the last word written, whatever was simulated,
    but for one case: the variable was left behind by a simulated change and the trace makes no change
    to it. -/
theorem applyTrace_shows_or_left_behind (s : Session η) (contract : Contract)
    (calls : List StorageCall) (document : Json) (given : Option String)
    (hloaded : ∃ first, (s.loadState contract).result = .ok first)
    (hproper : Layout.Proper (s.loadState contract).state.history.layout) :
    let declared := (s.loadState contract).state.history.layout
    let before := (s.loadState contract).state.afterCalls calls
    let move := before.applyTrace document (Json.ofOption .str given)
    ∃ snapshot, move.result = .ok snapshot
      ∧ ∀ v ∈ declared, ∀ w,
        StorageWrite.last? (History.recognised s.settings document) v.slot = some w →
          (move.state.history.currentState none).number? v.label
              = some (Layout.shown declared v w.value)
            ∨ (v.LeftBehind declared before.history.changes
              ∧ ∀ c ∈ snapshot.changes, c.key ≠ v.label) := by
  intro declared before move
  have hstart : History.Settled declared (s.loadState contract).state.history :=
    settled_loadState hloaded hproper
  have hbefore : History.Settled declared before.history := settled_afterCalls hstart hproper calls
  have hsettings : before.settings = s.settings := settings_afterCalls_of_loaded hloaded calls
  obtain ⟨snapshot, next, hresult, rfl, -, hwords, hvariables⟩ :=
    hbefore.replay hproper before.settings document given
  refine ⟨snapshot, hresult, fun v hv w hlast => ?_⟩
  rw [← hsettings] at hlast
  rcases hvariables v hv with hstep | hleft
  · -- a variable in step shows its part of the word held, which is the last one written
    left
    rw [← hwords v.slot w hlast]
    exact hstep
  · exact Or.inr hleft

/-! ## Two variables in one slot -/

/-- A contract with two variables in one slot and a setter of the first one. -/
def packedPair : Contract where
  name := .str "Pair"
  abi := .arr [.obj [("type", .str "function"), ("name", .str "setA"),
    ("inputs", .arr [.obj [("name", .str "value"), ("type", .str "uint128")]])]]
  creationCode := ""
  runtimeCode := ""
  creationMap := ""
  runtimeMap := ""
  storageLayout := .obj
    [ ("storage", .arr
        [ .obj [("label", .str "a"), ("slot", .str "0"), ("type", .str "t_uint128")],
          .obj [("label", .str "b"), ("slot", .str "0"), ("offset", .int 16),
            ("type", .str "t_uint128")] ]),
      ("types", .obj [("t_uint128", .obj [("numberOfBytes", .str "16")])]) ]
  sourcePath := ""
  fileIndex := .null
  methodIdentifiers := .obj []

/-- A session with the contract. -/
def packedPairLoaded : Move Unit (Except Fault (Option Snapshot)) :=
  (begin Settings.standard Hub.empty : Session Unit).loadState packedPair

/-- A trace that writes zero to the first variable and seven to the second. -/
def packedPairTrace : Json :=
  .obj [("structLogs", .arr [.obj [("pc", .int 0), ("op", .str "SSTORE"),
    ("stack", .arr [.str "0x0", .str "0x700000000000000000000000000000000"])]])]

/-- The write of the trace. -/
def packedPairWrite : StorageWrite := ⟨0, 0x700000000000000000000000000000000, 0, 1⟩

theorem packedPair_loaded : ∃ first, packedPairLoaded.result = .ok first :=
  ⟨_, rfl⟩

theorem packedPair_proper : Layout.Proper packedPairLoaded.state.history.layout := by
  have hlayout : packedPairLoaded.state.history.layout
      = [⟨0, "a", "t_uint128", "uint128", 0, 16⟩, ⟨0, "b", "t_uint128", "uint128", 16, 16⟩] := rfl
  rw [hlayout]
  refine ⟨?_, ?_, ?_, ?_⟩ <;> decide

theorem applyTrace_shows_or_left_behind_packedPair :
    let declared := packedPairLoaded.state.history.layout
    let before := packedPairLoaded.state.afterCalls
      [.simulate (.str "setA") (.arr [.int 5]) none, .applyTrace .null (some "0xaa")]
    let move := before.applyTrace packedPairTrace (Json.ofOption .str none)
    (∃ first, packedPairLoaded.result = .ok first)
      ∧ Layout.Proper packedPairLoaded.state.history.layout
      ∧ ∃ snapshot, move.result = .ok snapshot
        ∧ ∀ v ∈ declared, ∀ w,
          StorageWrite.last? (History.recognised Settings.standard packedPairTrace) v.slot = some w →
            (move.state.history.currentState none).number? v.label
                = some (Layout.shown declared v w.value)
              ∨ (v.LeftBehind declared before.history.changes
                ∧ ∀ c ∈ snapshot.changes, c.key ≠ v.label) :=
  ⟨packedPair_loaded, packedPair_proper,
    applyTrace_shows_or_left_behind (begin Settings.standard Hub.empty) packedPair
      [.simulate (.str "setA") (.arr [.int 5]) none, .applyTrace .null (some "0xaa")] packedPairTrace
      none packedPair_loaded packedPair_proper⟩

/-- The exception is real: after `setA(5)` was simulated, a trace that writes zero to the bytes of `a`
    finds them zero in the word that is held, makes no change to `a`, and `a` still shows five. -/
theorem applyTrace_hides_write_of_packedPair :
    let declared := packedPairLoaded.state.history.layout
    let before := packedPairLoaded.state.afterCalls
      [.simulate (.str "setA") (.arr [.int 5]) none]
    let move := before.applyTrace packedPairTrace (Json.ofOption .str none)
    Layout.Proper declared ∧ (∃ first, packedPairLoaded.result = .ok first)
      ∧ (∃ snapshot, move.result = .ok snapshot)
      ∧ ∃ v ∈ declared,
        StorageWrite.last? (History.recognised Settings.standard packedPairTrace) v.slot
            = some packedPairWrite
          ∧ Layout.shown declared v packedPairWrite.value = 0
          ∧ (move.state.history.currentState none).number? v.label = some 5 := by
  intro declared before move
  have hentries : (ParsedTrace.ofJson (some Settings.standard.traceLimit) packedPairTrace).entries
      = [⟨0, "SSTORE", 0, none, 1, ["0x0", "0x700000000000000000000000000000000"]⟩] := rfl
  have hhash : History.hashOf (Json.ofOption .str none)
      (ParsedTrace.ofJson (some Settings.standard.traceLimit) packedPairTrace) = .ok none := rfl
  have hwrite : StorageWrite.ofEntry? Settings.standard.slotOnTop
      ⟨0, "SSTORE", 0, none, 1, ["0x0", "0x700000000000000000000000000000000"]⟩
        = some packedPairWrite := rfl
  -- the call left no word, so the write is compared with zero and changes only the second variable
  have hheld : before.history.words.at packedPairWrite.slotText = 0 := Std.HashMap.getD_empty
  have hlayout : before.history.layout
      = [⟨0, "a", "t_uint128", "uint128", 0, 16⟩, ⟨0, "b", "t_uint128", "uint128", 16, 16⟩] := rfl
  have hchanges : packedPairWrite.changes
      (Layout.variablesAt before.history.layout packedPairWrite.slotText) (.ok none) 0
        = .ok [packedPairWrite.change none 0 7 (some "b") (Word.friendlyType "uint128")] := by
    rw [hlayout]
    rfl
  have hword : packedPairWrite.value ≠ 0 ∨ (0 : Int) ≠ 0 := by
    decide
  have hlast : StorageWrite.last? (History.recognised Settings.standard packedPairTrace) 0
      = some packedPairWrite := by
    rw [History.recognised_of_entries_singleton hentries hwrite]
    rfl
  obtain ⟨r, hrun, hmade⟩ := Replay.run_singleton hwrite hheld hword hchanges
  rw [← hentries] at hrun
  obtain ⟨s, hresult, hleaves⟩ := History.replay_of_run hhash hrun
  refine ⟨packedPair_proper, packedPair_loaded, ⟨s, hresult⟩,
    ⟨0, "a", "t_uint128", "uint128", 0, 16⟩, List.mem_cons_self, hlast, rfl, ?_⟩
  have hstate := hleaves.currentState_eq
  rw [Replay.stateAfter, hmade] at hstate
  exact congrArg (fun state => state.number? "a") hstate

end Session

end EvmScope
