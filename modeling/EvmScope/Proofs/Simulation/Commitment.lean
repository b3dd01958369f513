import EvmScope.Simulation.Call

set_option autoImplicit false

/-! # Simulated calls are kept whole or not at all

A simulated call works on a draft of the state, and the history sees nothing of it before the draft is
complete. A draft that fails is dropped with all that was written to it, wherever it failed. So a call
comes to one of four ends, which `Simulation.Ends` lists, and only the last of them touches the history:
by one snapshot with the changes of the draft. -/

namespace EvmScope

/-! ## A transfer that fails half way -/

namespace Draft

/-- Add an amount to an entry, as the second half of a transfer does. -/
def credit (d : Draft) (target : String) (amount : Int) : Except Fault Draft := do
  let balance ← d.numberAt target
  d.writeNumber target (balance + amount) "TRANSFER_TO"

/-- A transfer takes its amount from the sender, finds the recipient and then fails to add the amount
    there. -/
structure FailsToCredit (start : Projection) (recipient amount : Json) (debited : Draft)
    (fault : Fault) : Prop where
  exists_debit : ∃ source n held, find? ⟨start, []⟩ "balance" = some source
    ∧ amountOf amount = .ok n ∧ numberAt ⟨start, []⟩ source = .ok held
    ∧ writeNumber ⟨start, []⟩ source (held - n) "TRANSFER_FROM" = .ok debited
    ∧ (debited.state.lookup (recipient.display ++ "_balance")).isSome = true
    ∧ debited.credit (recipient.display ++ "_balance") n = .error fault

/-- An entry that is there can fail to be credited only for its value or the amount. -/
theorem isBadValue_of_credit {d : Draft} {target : String} {amount : Int} {fault : Fault}
    (hthere : (d.state.lookup target).isSome = true) (hfails : d.credit target amount = .error fault) :
    fault.isBadValue = true := by
  obtain ⟨entry, hentry⟩ := Option.isSome_iff_exists.1 hthere
  simp only [credit, numberAt, hentry] at hfails
  cases hread : Numeral.read .hexadecimal entry.value with
  | error cause =>
    rw [hread] at hfails
    cases hfails
    rfl
  | ok balance =>
    rw [hread] at hfails
    change d.writeNumber target (balance + amount) "TRANSFER_TO" = .error fault at hfails
    rw [writeNumber] at hfails
    by_cases hnegative : balance + amount < 0
    · rw [if_pos hnegative] at hfails
      cases hfails
      rfl
    · rw [if_neg hnegative, write, hentry] at hfails
      cases hfails

theorem FailsToCredit.isBadValue {start : Projection} {recipient amount : Json} {debited : Draft}
    {fault : Fault} (hfails : FailsToCredit start recipient amount debited fault) :
    fault.isBadValue = true := by
  obtain ⟨_, _, _, -, -, -, -, hthere, hcredit⟩ := hfails.exists_debit
  exact isBadValue_of_credit hthere hcredit

/-- Such a transfer fails as a whole. -/
theorem FailsToCredit.transfer_eq {start : Projection} {recipient amount : Json} {debited : Draft}
    {fault : Fault} (hfails : FailsToCredit start recipient amount debited fault) :
    transfer ⟨start, []⟩ recipient amount = .error fault := by
  obtain ⟨source, n, held, hsource, hamount, hheld, hdebit, hthere, hcredit⟩ := hfails.exists_debit
  have hsome : (debited.state.lookup (recipient.display ++ "_balance")).isNone = false := by
    simpa using hthere
  unfold transfer
  simp only [hsource, hamount, hheld, hdebit, bind, Except.bind, hsome, Bool.false_eq_true, if_false]
  exact hcredit

end Draft

/-! ## The ends of a call -/

namespace Simulation

/-- A call makes changes: its function is found and may write, its arguments are in order, and its
    effect on the state is a draft that was written to. -/
structure Makes (functions : List AbiFunction) (name arguments : Json) (start : Projection)
    (memory : Nat) (f : AbiFunction) (values : List Json) (draft : Draft) : Prop where
  found : AbiFunction.find? name functions = .ok (some f)
  listed : argumentsOf arguments = .ok values
  accepted : problems f values memory = .ok []
  writes : f.isReadOnly = false
  applied : Draft.apply ⟨start, []⟩ f.name values = .ok draft
  changed : draft.changes ≠ []

/-- The ends of a call over a state. -/
inductive Ends (h : History) (functions : List AbiFunction) (name arguments : Json)
    (start : Projection) (memory : Nat) : HistoryMove Simulation → Prop
  /-- The call does not return. -/
  | refused (fault : Fault) : Ends h functions name arguments start memory (h.refuse fault)
  /-- The call returns with the reasons why it was not carried out. -/
  | rejected (errors : List SimulationFault) (herrors : errors ≠ []) :
    Ends h functions name arguments start memory (.stay h (.ok (without start errors)))
  /-- The call is carried out and changes nothing. -/
  | idle : Ends h functions name arguments start memory (.stay h (.ok (without start [])))
  | committed {f : AbiFunction} {values : List Json} {draft : Draft}
    (hmakes : Makes functions name arguments start memory f values draft) :
    Ends h functions name arguments start memory (commit h f values draft.state draft.changes.reverse)

variable {h : History} {functions : List AbiFunction} {name arguments : Json}
  {given : Option Projection} {memory : Nat} {f : AbiFunction} {values : List Json}

theorem run_eq_perform (hfound : AbiFunction.find? name functions = .ok (some f))
    (hlisted : argumentsOf arguments = .ok values) :
    run h functions name arguments given memory
      = perform h f values (given.getD (h.currentState none)) memory := by
  simp only [run, hfound, hlisted]

theorem perform_of_failed {start : Projection} {fault : Fault} (haccepted : problems f values memory = .ok [])
    (hwrites : f.isReadOnly = false) (happlied : Draft.apply ⟨start, []⟩ f.name values = .error fault)
    (hbad : fault.isBadValue = true) :
    perform h f values start memory = .stay h (.ok (without start [.failed fault.message])) := by
  simp only [perform, haccepted, hwrites, happlied, hbad, Bool.false_eq_true, if_false, if_true]

/-- What a call over a state comes to when its arguments are in order. -/
inductive Performs (h : History) (f : AbiFunction) (values : List Json) (start : Projection) :
    HistoryMove Simulation → Prop
  | reads (hreads : f.isReadOnly = true) : Performs h f values start (.stay h (.ok (without start [])))
  | fails {fault : Fault} (hwrites : f.isReadOnly = false)
    (happlied : Draft.apply ⟨start, []⟩ f.name values = .error fault) (hbad : fault.isBadValue = true) :
    Performs h f values start (.stay h (.ok (without start [.failed fault.message])))
  | breaks {fault : Fault} (hwrites : f.isReadOnly = false)
    (happlied : Draft.apply ⟨start, []⟩ f.name values = .error fault) (hbad : fault.isBadValue = false) :
    Performs h f values start (h.refuse fault)
  | keeps {draft : Draft} (hwrites : f.isReadOnly = false)
    (happlied : Draft.apply ⟨start, []⟩ f.name values = .ok draft) (hnone : draft.changes = []) :
    Performs h f values start (.stay h (.ok (without start [])))
  | commits {draft : Draft} (hwrites : f.isReadOnly = false)
    (happlied : Draft.apply ⟨start, []⟩ f.name values = .ok draft) (hchanged : draft.changes ≠ []) :
    Performs h f values start (commit h f values draft.state draft.changes.reverse)

theorem performs {start : Projection} (haccepted : problems f values memory = .ok []) :
    Performs h f values start (perform h f values start memory) := by
  unfold perform
  rw [haccepted]
  dsimp only
  by_cases hreads : f.isReadOnly = true
  · rw [if_pos hreads]
    exact .reads hreads
  · have hwrites : f.isReadOnly = false := eq_false_of_ne_true hreads
    rw [if_neg hreads]
    cases happlied : Draft.apply ⟨start, []⟩ f.name values with
    | error fault =>
      dsimp only
      by_cases hbad : fault.isBadValue = true
      · rw [if_pos hbad]
        exact .fails hwrites happlied hbad
      · rw [if_neg hbad]
        exact .breaks hwrites happlied (eq_false_of_ne_true hbad)
    | ok draft =>
      dsimp only
      by_cases hnone : draft.changes.isEmpty = true
      · rw [if_pos hnone]
        exact .keeps hwrites happlied (List.isEmpty_iff.1 hnone)
      · rw [if_neg hnone]
        exact .commits hwrites happlied (fun hnil => hnone (List.isEmpty_iff.2 hnil))

/-- A call that makes changes commits them. -/
theorem Makes.run_eq {draft : Draft} (hmakes : Makes functions name arguments
    (given.getD (h.currentState none)) memory f values draft) :
    run h functions name arguments given memory
      = commit h f values draft.state draft.changes.reverse := by
  have hchanged : draft.changes.isEmpty = false := by
    simpa using hmakes.changed
  rw [run_eq_perform hmakes.found hmakes.listed]
  simp only [perform, hmakes.accepted, hmakes.writes, hmakes.applied, hchanged, Bool.false_eq_true,
    if_false]

/-- **Every call** comes to one of the ends. -/
theorem run_ends (h : History) (functions : List AbiFunction) (name arguments : Json)
    (given : Option Projection) (memory : Nat) :
    Ends h functions name arguments (given.getD (h.currentState none)) memory
      (run h functions name arguments given memory) := by
  generalize hstart : given.getD (h.currentState none) = start
  unfold run
  rw [hstart]
  dsimp only
  cases hfound : AbiFunction.find? name functions with
  | error fault => exact .refused fault
  | ok found =>
    cases found with
    | none => exact .rejected [.functionNotFound name.display] (List.cons_ne_nil _ _)
    | some f =>
      dsimp only
      cases hlisted : argumentsOf arguments with
      | error fault => exact .refused fault
      | ok values =>
        dsimp only
        cases haccepted : problems f values memory with
        | error fault =>
          rw [perform, haccepted]
          exact .refused fault
        | ok wrong =>
          cases wrong with
          | cons error errors =>
            rw [perform, haccepted]
            exact .rejected (error :: errors) (List.cons_ne_nil _ _)
          | nil =>
            have hperforms : Performs h f values start (perform h f values start memory) :=
              performs haccepted
            generalize perform h f values start memory = move at hperforms ⊢
            cases hperforms with
            | reads => exact .idle
            | fails => exact .rejected _ (List.cons_ne_nil _ _)
            | breaks => exact .refused _
            | keeps => exact .idle
            | commits hwrites happlied hchanged =>
              exact .committed ⟨hfound, hlisted, haccepted, hwrites, happlied, hchanged⟩

/-! ## Committing -/

/-- The snapshot of a call with some changes. -/
def snapshotOf (h : History) (f : AbiFunction) (values : List Json) (changes : List StateChange) :
    Snapshot where
  id := h.snapshots.length
  changes := changes
  transactionHash := none
  context := [("type", .str "simulation"), ("function", .str f.name), ("inputs", .arr values)]

theorem state_commit (h : History) (f : AbiFunction) (values : List Json) (state : Projection)
    (changes : List StateChange) : (commit h f values state changes).state
      = { h with snapshots := h.snapshots ++ [snapshotOf h f values changes]
                 words := changes.foldl h.adopt h.words } :=
  rfl

theorem events_commit (h : History) (f : AbiFunction) (values : List Json) (state : Projection)
    (changes : List StateChange) : (commit h f values state changes).events
      = [.snapshotCreated (snapshotOf h f values changes)] :=
  rfl

theorem result_commit (h : History) (f : AbiFunction) (values : List Json) (state : Projection)
    (changes : List StateChange) : (commit h f values state changes).result
      = (stamp h.snapshots.length state changes).map (fun state => ⟨changes, state, []⟩) := by
  cases hstamp : stamp h.snapshots.length state changes with
  | error fault =>
    simp [commit, History.addSimulated, History.append, bind, Except.bind, Except.map, hstamp]
  | ok stamped =>
    simp [commit, History.addSimulated, History.append, bind, Except.bind, pure, Except.pure,
      Except.map, hstamp]

/-! ## All or nothing -/

/-- What holds of a call that returns, over the state that it starts from. -/
structure AllOrNothing (h : History) (start : Projection) (move : HistoryMove Simulation)
    (r : Simulation) : Prop where
  of_errors : r.errors ≠ [] →
    r.changes = [] ∧ r.state = start ∧ move.state = h ∧ move.events = []
  of_no_changes : r.errors = [] → r.changes = [] →
    r.state = start ∧ move.state = h ∧ move.events = []
  /-- The history has one more snapshot, which has the changes in their order, and takes over their
      words. -/
  of_changes : r.errors = [] → r.changes ≠ [] → ∃ s : Snapshot,
    s.id = h.snapshots.length ∧ s.changes = r.changes
      ∧ move.state = { h with snapshots := h.snapshots ++ [s], words := r.changes.foldl h.adopt h.words }
      ∧ move.events = [.snapshotCreated s]

theorem Ends.allOrNothing {start : Projection} {move : HistoryMove Simulation} {r : Simulation}
    (hends : Ends h functions name arguments start memory move) (hok : move.result = .ok r) :
    AllOrNothing h start move r := by
  cases hends with
  | refused fault => cases hok
  | rejected errors herrors =>
    cases hok
    exact ⟨fun _ => ⟨rfl, rfl, rfl, rfl⟩, fun hnone => absurd hnone herrors,
      fun hnone => absurd hnone herrors⟩
  | idle =>
    cases hok
    exact ⟨fun hsome => absurd rfl hsome, fun _ _ => ⟨rfl, rfl, rfl⟩,
      fun _ hchanges => absurd rfl hchanges⟩
  | @committed f values draft hmakes =>
    rw [result_commit] at hok
    cases hstamp : stamp h.snapshots.length draft.state draft.changes.reverse with
    | error fault =>
      rw [hstamp] at hok
      cases hok
    | ok stamped =>
      rw [hstamp] at hok
      cases hok
      have hchanges : draft.changes.reverse ≠ [] := by
        simpa using hmakes.changed
      exact ⟨fun hsome => absurd rfl hsome, fun _ hnone => absurd hnone hchanges,
        fun _ _ => ⟨snapshotOf h f values draft.changes.reverse, rfl, rfl, state_commit .., events_commit ..⟩⟩

theorem Ends.changes_of_isReadOnly {start : Projection} {move : HistoryMove Simulation}
    {r : Simulation} (hends : Ends h functions name arguments start memory move) (hok : move.result = .ok r)
    (hfound : AbiFunction.find? name functions = .ok (some f)) (hreads : f.isReadOnly = true) :
    r.changes = [] := by
  cases hends with
  | refused fault => cases hok
  | rejected errors herrors =>
    cases hok
    rfl
  | idle =>
    cases hok
    rfl
  | committed hmakes =>
    have hsame := hmakes.found.symm.trans hfound
    cases hsame
    rw [hmakes.writes] at hreads
    cases hreads

/-- **All or nothing.** Whatever the history, the functions, the arguments and the state that a call is
    given: a call that returns errors, or no changes, leaves the history as it was, tells nobody and
    shows the state it started from, and a call that returns changes adds them as one snapshot. Calls of
    functions that only read never change anything, and a transfer that fails after its debit returns
    the reason and leaves no trace. -/
theorem run_all_or_nothing (h : History) (functions : List AbiFunction) (name arguments : Json)
    (given : Option Projection) (memory : Nat) :
    let start := given.getD (h.currentState none)
    let move := run h functions name arguments given memory
    (∀ r, move.result = .ok r → AllOrNothing h start move r
      ∧ ∀ f, AbiFunction.find? name functions = .ok (some f) → f.isReadOnly = true → r.changes = [])
    ∧ ∀ f recipient amount rest debited fault,
      AbiFunction.find? name functions = .ok (some f) → f.isReadOnly = false →
      containsText (toSmall f.name) "transfer" = true →
      argumentsOf arguments = .ok (recipient :: amount :: rest) →
      problems f (recipient :: amount :: rest) memory = .ok [] →
      Draft.FailsToCredit start recipient amount debited fault →
      move = .stay h (.ok (without start [.failed fault.message])) := by
  intro start move
  have hends : Ends h functions name arguments start memory move :=
    run_ends h functions name arguments given memory
  refine ⟨fun r hok => ⟨hends.allOrNothing hok, fun f hfound hreads => ?_⟩, ?_⟩
  · exact hends.changes_of_isReadOnly hok hfound hreads
  · intro f recipient amount rest debited fault hfound hwrites htransfer hlisted haccepted hfails
    have happlied : Draft.apply ⟨start, []⟩ f.name (recipient :: amount :: rest) = .error fault := by
      simp only [Draft.apply, htransfer, if_true]
      exact hfails.transfer_eq
    have hperform : move = perform h f (recipient :: amount :: rest) start memory :=
      run_eq_perform hfound hlisted
    rw [hperform]
    exact perform_of_failed haccepted hwrites happlied hfails.isBadValue

/-- A function that moves an amount to a recipient. -/
def transferFunction : AbiFunction := ⟨"transfer", [], [], .str "nonpayable"⟩

/-- A state in which the sender has nine and the balance of the recipient cannot be read. -/
def unreadableRecipient : Projection :=
  [ ("balance", ⟨"Number (uint256)", "0x9", "9", "0x0", 0, "0x0", "INITIAL"⟩),
    ("bob_balance", ⟨"Number (uint256)", "0xzz", "0xzz", "0x0", 0, "0x1", "SET"⟩) ]

/-- The state with five taken from the sender. -/
def debitedSender : Projection :=
  [ ("balance", ⟨"Number (uint256)", "0x4", "4", "0x9", 0, "0x0", "TRANSFER_FROM"⟩),
    ("bob_balance", ⟨"Number (uint256)", "0xzz", "0xzz", "0x0", 0, "0x1", "SET"⟩) ]

/-- The change that takes five from the sender. -/
def debitOfFive : StateChange :=
  ⟨"0x0", "0x9", "0x4", some "balance", some "Number (uint256)", "TRANSFER_FROM", 0, 0, none⟩

theorem failsToCredit_unreadableRecipient :
    Draft.FailsToCredit unreadableRecipient (.str "bob") (.int 5) ⟨debitedSender, [debitOfFive]⟩
      (.numeral (.malformed .hexadecimal "0xzz")) :=
  ⟨"balance", 5, 9, rfl, rfl, rfl, rfl, rfl, rfl⟩

theorem run_all_or_nothing_unreadableRecipient :
    let arguments : List Json := [.str "bob", .int 5]
    let move := run History.empty [transferFunction] (.str "transfer") (.arr arguments)
      (some unreadableRecipient)
    AbiFunction.find? (.str "transfer") [transferFunction] = .ok (some transferFunction)
      ∧ transferFunction.isReadOnly = false
      ∧ containsText (toSmall transferFunction.name) "transfer" = true
      ∧ argumentsOf (.arr arguments) = .ok arguments
      ∧ problems transferFunction arguments Argument.standardMemory = .ok []
      ∧ Draft.FailsToCredit unreadableRecipient (.str "bob") (.int 5)
        ⟨debitedSender, [debitOfFive]⟩ (.numeral (.malformed .hexadecimal "0xzz"))
      ∧ move = .stay History.empty (.ok (without unreadableRecipient
        [.failed "invalid literal for int() with base 16: '0xzz'"]))
      ∧ ∀ r, move.result = .ok r → AllOrNothing History.empty unreadableRecipient move r := by
  intro arguments move
  obtain ⟨hreturns, hfails⟩ := run_all_or_nothing History.empty [transferFunction] (.str "transfer")
    (.arr arguments) (some unreadableRecipient) Argument.standardMemory
  refine ⟨rfl, rfl, rfl, rfl, rfl, failsToCredit_unreadableRecipient, ?_,
    fun r hok => (hreturns r hok).1⟩
  exact hfails transferFunction (.str "bob") (.int 5) [] ⟨debitedSender, [debitOfFive]⟩ _ rfl rfl rfl rfl
    rfl failsToCredit_unreadableRecipient

end Simulation

end EvmScope
