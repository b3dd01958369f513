import EvmScope.Proofs.Simulation.Checking
import EvmScope.Proofs.Simulation.Failure

set_option autoImplicit false

/-! # Calls report what is wrong with them

A call that cannot be carried out returns with the reasons: the function is not there, arguments are of no
use, or the effect fails for a value. The guard that turns faults into reasons stands around the effect
only. So a fault leaves a call in two ways: a check that comes to no verdict, before the effect is tried,
and a change that does not lead back to its entry, after it has been added to the history. -/

namespace EvmScope

/-! ## The state of a history -/

/-- No change of a history names a variable by a label that begins like the key of a slot. -/
def History.LabelsApart (h : History) : Prop :=
  ∀ d ∈ h.changes, ∀ label, d.2.variableName = some label → beginsWith label "slot_" = false

theorem StateChange.key_of_beginsWith {c : StateChange}
    (hlabels : ∀ label, c.variableName = some label → beginsWith label "slot_" = false)
    (hbegins : beginsWith c.key "slot_" = true) : c.key = slotKey c.slot := by
  unfold key at hbegins ⊢
  split
  · next name hname =>
    rw [hname] at hbegins
    dsimp only at hbegins
    by_cases hempty : name = ""
    · rw [if_pos hempty]
    · rw [if_neg hempty, hlabels name hname] at hbegins
      cases hbegins
  · rfl

/-- Then the keys of slots in the current state are those of the slots of their entries. -/
theorem History.LabelsApart.slotKeysOwn {h : History} (hlabels : h.LabelsApart) :
    (h.currentState none).SlotKeysOwn := by
  intro key entry hentry hbegins
  obtain ⟨d, hd, rfl, rfl⟩ := exists_change_of_lookup hentry
  exact StateChange.key_of_beginsWith (hlabels d hd) hbegins

theorem History.ne_empty_of_mem_keys {h : History} {key : String}
    (hkey : key ∈ Table.keys (h.currentState none)) : key ≠ "" := by
  obtain ⟨entry, hentry⟩ := (Table.mem_keys_iff_exists_lookup _ _).1 hkey
  obtain ⟨d, -, rfl, -⟩ := exists_change_of_lookup hentry
  exact d.2.key_ne_empty

/-! ## Finding a function -/

namespace AbiFunction

/-- All parameters of a function are described by objects. -/
def HasParameters (f : AbiFunction) : Prop :=
  ∀ parameter ∈ f.inputs, ∃ typeName, AbiFunction.typeName parameter = .ok typeName

theorem exists_find?_ok {functions : List AbiFunction} (hparameters : ∀ f ∈ functions, f.HasParameters)
    (name : Json) : ∃ found, find? name functions = .ok found ∧ ∀ f, found = some f → f ∈ functions := by
  induction functions with
  | nil => exact ⟨none, rfl, fun f hf => by cases hf⟩
  | cons f rest ih =>
    obtain ⟨types, htypes⟩ := (exists_mapM_eq_ok_iff AbiFunction.typeName f.inputs).2
      (hparameters f List.mem_cons_self)
    obtain ⟨found, hfound, hmem⟩ := ih (fun g hg => hparameters g (List.mem_cons_of_mem _ hg))
    unfold find? signature
    rw [htypes]
    dsimp only [Except.map]
    split
    · exact ⟨some f, rfl, fun g hg => Option.some.inj hg ▸ List.mem_cons_self⟩
    · exact ⟨found, hfound, fun g hg => List.mem_cons_of_mem _ (hmem g hg)⟩

end AbiFunction

namespace Simulation

/-! ## Checking the arguments -/

/-- Some argument of a call breaks the check against the type of its parameter. -/
def BreaksCheck (f : AbiFunction) (values : List Json) (memory : Nat) : Prop :=
  ∃ pair ∈ f.inputs.zip values, ∃ typeName, AbiFunction.typeName pair.1 = .ok typeName
    ∧ Argument.Breaks pair.2 typeName memory

variable {f : AbiFunction} {values : List Json} {memory : Nat}

theorem problem?_eq {parameter argument : Json} {typeName : String}
    (htype : AbiFunction.typeName parameter = .ok typeName) :
    problem? parameter argument memory = (Argument.check argument typeName memory).map
      (fun verdict => verdict.map
        (fun problem => .badArgument (parameterName parameter) problem.message)) := by
  cases hcheck : Argument.check argument typeName memory with
  | error fault => simp only [problem?, htype, hcheck, bind, Except.bind, Except.map]
  | ok verdict => simp only [problem?, htype, hcheck, bind, Except.bind, pure, Except.pure, Except.map]

theorem exists_problems_error_iff (hparameters : f.HasParameters) :
    (∃ fault, problems f values memory = .error fault) ↔ BreaksCheck f values memory := by
  unfold problems BreaksCheck
  rw [Argument.exists_map_error_iff]
  constructor
  · rintro ⟨fault, herror⟩
    obtain ⟨pair, hpair, hfails⟩ := exists_of_mapM_error herror
    obtain ⟨typeName, htype⟩ := hparameters pair.1 (List.of_mem_zip hpair).1
    rw [problem?_eq htype] at hfails
    exact ⟨pair, hpair, typeName, htype, (Argument.exists_check_error_iff _ _ _).1
      (Argument.exists_map_error_iff.1 ⟨fault, hfails⟩)⟩
  · rintro ⟨pair, hpair, typeName, htype, hbreaks⟩
    obtain ⟨fault, herror⟩ := (Argument.exists_check_error_iff _ _ _).2 hbreaks
    cases hmade : (f.inputs.zip values).mapM (fun pair => problem? pair.1 pair.2 memory) with
    | error cause => exact ⟨cause, rfl⟩
    | ok found =>
      obtain ⟨verdict, -, hverdict⟩ := exists_mem_of_mapM hmade pair hpair
      rw [problem?_eq htype, herror] at hverdict
      cases hverdict

/-- Whatever is wrong with an argument is among the problems. -/
theorem mem_problems {wrong : List SimulationFault} (hok : problems f values memory = .ok wrong)
    {parameter argument : Json} (hpair : (parameter, argument) ∈ f.inputs.zip values) {typeName : String}
    (htype : AbiFunction.typeName parameter = .ok typeName) {problem : ArgumentProblem}
    (hcheck : Argument.check argument typeName memory = .ok (some problem)) :
    .badArgument (parameterName parameter) problem.message ∈ wrong := by
  obtain ⟨found, hfound, rfl⟩ := map_eq_ok_iff.1 hok
  obtain ⟨verdict, hmem, hverdict⟩ := exists_mem_of_mapM hfound _ hpair
  rw [problem?_eq htype, hcheck] at hverdict
  cases hverdict
  exact List.mem_filterMap.2 ⟨_, hmem, rfl⟩

/-! ## Calls -/

/-- What a call reports of all that is wrong with it. -/
structure Reports (functions : List AbiFunction) (name : Json) (values : List Json) (start : Projection)
    (memory : Nat) (r : Simulation) : Prop where
  notFound : AbiFunction.find? name functions = .ok none → r.errors = [.functionNotFound name.display]
  badArgument : ∀ f, AbiFunction.find? name functions = .ok (some f) →
    ∀ parameter argument, (parameter, argument) ∈ f.inputs.zip values →
    ∀ typeName, AbiFunction.typeName parameter = .ok typeName →
    ∀ problem, Argument.check argument typeName memory = .ok (some problem) →
      .badArgument (parameterName parameter) problem.message ∈ r.errors
  failed : ∀ f, AbiFunction.find? name functions = .ok (some f) → problems f values memory = .ok [] →
    f.isReadOnly = false → ∀ fault, Draft.apply ⟨start, []⟩ f.name values = .error fault →
      r.errors = [.failed fault.message]

namespace Reports

variable {functions : List AbiFunction} {name : Json} {start : Projection} {r : Simulation}

theorem of_notFound (hfound : AbiFunction.find? name functions = .ok none)
    (herrors : r.errors = [.functionNotFound name.display]) :
    Reports functions name values start memory r where
  notFound := fun _ => herrors
  badArgument := fun f hf => by
    rw [hfound] at hf
    cases hf
  failed := fun f hf => by
    rw [hfound] at hf
    cases hf

/-- A call whose arguments have problems reports them. -/
theorem of_problems {wrong : List SimulationFault} (hfound : AbiFunction.find? name functions = .ok (some f))
    (hwrong : problems f values memory = .ok wrong) (hsome : wrong ≠ []) (herrors : r.errors = wrong) :
    Reports functions name values start memory r where
  notFound := fun hf => by
    rw [hfound] at hf
    cases hf
  badArgument := fun g hg parameter argument hpair typeName htype problem hcheck => by
    rw [hfound] at hg
    cases hg
    rw [herrors]
    exact mem_problems hwrong hpair htype hcheck
  failed := fun g hg haccepted => by
    rw [hfound] at hg
    cases hg
    rw [hwrong] at haccepted
    cases haccepted
    exact absurd rfl hsome

/-- A call whose arguments are in order has nothing but its effect to report. -/
theorem of_accepted (hfound : AbiFunction.find? name functions = .ok (some f))
    (haccepted : problems f values memory = .ok []) (hfailed : f.isReadOnly = false →
      ∀ fault, Draft.apply ⟨start, []⟩ f.name values = .error fault → r.errors = [.failed fault.message]) :
    Reports functions name values start memory r where
  notFound := fun hf => by
    rw [hfound] at hf
    cases hf
  badArgument := fun g hg parameter argument hpair typeName htype problem hcheck => by
    rw [hfound] at hg
    cases hg
    exact absurd (mem_problems haccepted hpair htype hcheck) List.not_mem_nil
  failed := fun g hg _ hwrites fault hfails => by
    rw [hfound] at hg
    cases hg
    exact hfailed hwrites fault hfails

end Reports

/-- A draft that comes to be committed is, unless it has written to the entry of a slot without number. -/
theorem commit_ok_or_noEntry {h : History} (hlabels : h.LabelsApart) {draft : Draft}
    (happlied : Draft.apply ⟨h.currentState none, []⟩ f.name values = .ok draft) :
    (∃ r, (commit h f values draft.state draft.changes.reverse).result = .ok r)
      ∨ ((commit h f values draft.state draft.changes.reverse).result = .error .noEntry
        ∧ "slot_" ∈ Table.keys (h.currentState none)) := by
  obtain ⟨keys, hwrites⟩ := Draft.writes_of_apply happlied
  rw [result_commit]
  cases hstamp : stamp h.snapshots.length draft.state draft.changes.reverse with
  | ok stamped => exact Or.inl ⟨_, rfl⟩
  | error fault =>
    right
    constructor
    · obtain ⟨c, -, state, hfails⟩ := exists_of_foldlM_error hstamp
      cases hentry : state.lookup c.key with
      | none =>
        rw [hentry] at hfails
        cases hfails
        rfl
      | some entry =>
        rw [hentry] at hfails
        cases hfails
    · by_contra hbare
      have hkeys : ∀ key ∈ keys, key ≠ "" ∧ key ≠ "slot_" := fun key hkey =>
        ⟨History.ne_empty_of_mem_keys (hwrites.mem_keys key hkey),
          fun hsame => hbare (hsame ▸ hwrites.mem_keys key hkey)⟩
      obtain ⟨stamped, hok⟩ := exists_stamp_ok hwrites hlabels.slotKeysOwn hkeys h.snapshots.length
      rw [hstamp] at hok
      cases hok

/-- A call whose arguments are in order returns and reports its effect, or its draft cannot be committed. -/
theorem perform_of_accepted {h : History} (hlabels : h.LabelsApart) {functions : List AbiFunction}
    {name : Json} (hfound : AbiFunction.find? name functions = .ok (some f))
    (haccepted : problems f values memory = .ok []) :
    (∃ r, (perform h f values (h.currentState none) memory).result = .ok r
        ∧ Reports functions name values (h.currentState none) memory r)
      ∨ ((perform h f values (h.currentState none) memory).result = .error .noEntry
        ∧ "slot_" ∈ Table.keys (h.currentState none)) := by
  have hperforms : Performs h f values (h.currentState none)
      (perform h f values (h.currentState none) memory) := performs haccepted
  generalize perform h f values (h.currentState none) memory = move at hperforms
  cases hperforms with
  | reads hreads =>
    refine Or.inl ⟨_, rfl, .of_accepted hfound haccepted (fun hwrites => ?_)⟩
    rw [hreads] at hwrites
    cases hwrites
  | fails hwrites happlied hbad =>
    refine Or.inl ⟨_, rfl, .of_accepted hfound haccepted (fun _ found hfails => ?_)⟩
    rw [happlied] at hfails
    cases hfails
    rfl
  | breaks hwrites happlied hother =>
    have hbad := Effect.onlyBadValues_apply _ _ _ ((Effect.apply_ofCall _ _ _).trans happlied)
    rw [hother] at hbad
    cases hbad
  | keeps hwrites happlied hnone =>
    refine Or.inl ⟨_, rfl, .of_accepted hfound haccepted (fun _ found hfails => ?_)⟩
    rw [happlied] at hfails
    cases hfails
  | commits hwrites happlied hchanged =>
    rcases commit_ok_or_noEntry hlabels happlied with ⟨r, hok⟩ | hfails
    · refine Or.inl ⟨r, hok, .of_accepted hfound haccepted (fun _ found hfails => ?_)⟩
      rw [happlied] at hfails
      cases hfails
    · exact Or.inr hfails

/-- **Reasons and faults.** Take functions whose parameters are described by objects and a history in which
    no label looks like the key of a slot. A call over the current state returns and reports all that is
    wrong with it, with two exceptions: an argument breaks the check against its type, or the call has
    written to the entry of a slot without number. -/
theorem run_reports_or_breaks (h : History) (functions : List AbiFunction) (name : Json) (values : List Json)
    (memory : Nat) (hparameters : ∀ f ∈ functions, f.HasParameters) (hlabels : h.LabelsApart) :
    let start := h.currentState none
    let result := (run h functions name (.arr values) none memory).result
    let breaks := ∃ f, AbiFunction.find? name functions = .ok (some f) ∧ BreaksCheck f values memory
    (breaks ∧ ∃ fault, result = .error fault)
    ∨ (¬ breaks ∧ ∃ r, result = .ok r ∧ Reports functions name values start memory r)
    ∨ (¬ breaks ∧ result = .error .noEntry ∧ "slot_" ∈ Table.keys start) := by
  intro start result breaks
  obtain ⟨found, hfound, hmem⟩ := AbiFunction.exists_find?_ok hparameters name
  cases found with
  | none =>
    refine Or.inr (Or.inl ⟨?_, without start [.functionNotFound name.display], ?_, .of_notFound hfound rfl⟩)
    · rintro ⟨f, hf, -⟩
      rw [hfound] at hf
      cases hf
    · simp only [result, run, hfound]
      rfl
  | some f =>
    have hbreaks : breaks ↔ BreaksCheck f values memory := by
      constructor
      · rintro ⟨g, hg, hbreaks⟩
        rw [hfound] at hg
        cases hg
        exact hbreaks
      · exact fun hbreaks => ⟨f, hfound, hbreaks⟩
    have hresult : result = (perform h f values start memory).result := by
      have hperform : run h functions name (.arr values) none memory = perform h f values start memory :=
        run_eq_perform hfound rfl
      exact congrArg Transition.result hperform
    rw [hbreaks, ← exists_problems_error_iff (hparameters f (hmem f rfl)), hresult]
    cases hwrong : problems f values memory with
    | error fault =>
      refine Or.inl ⟨⟨fault, rfl⟩, fault, ?_⟩
      rw [perform, hwrong]
      rfl
    | ok wrong =>
      have hmade : ¬ ∃ fault, (Except.ok wrong : Except Fault _) = .error fault := by
        rintro ⟨fault, hfails⟩
        cases hfails
      cases wrong with
      | cons error errors =>
        refine Or.inr (Or.inl ⟨hmade, without start (error :: errors), ?_,
          .of_problems hfound hwrong (List.cons_ne_nil _ _) rfl⟩)
        rw [perform, hwrong]
        rfl
      | nil =>
        right
        rcases perform_of_accepted hlabels hfound hwrong with hreturns | hfails
        · exact Or.inl ⟨hmade, hreturns⟩
        · exact Or.inr ⟨hmade, hfails⟩

/-! ## Calls with and without an answer -/

/-- A setter of a number that is named to be of a type. -/
def setterOf (typeName : String) : AbiFunction where
  name := "setLimit"
  inputs := [.obj [("name", .str "value"), ("type", .str typeName)]]
  outputs := []
  mutability := .str "nonpayable"

theorem hasParameters_setterOf (typeName : String) : ∀ f ∈ [setterOf typeName], f.HasParameters := by
  intro f hf parameter hparameter
  obtain rfl := List.mem_singleton.1 hf
  obtain rfl := List.mem_singleton.1 hparameter
  exact ⟨typeName, rfl⟩

theorem labelsApart_limitAndSwitch : limitAndSwitch.LabelsApart := by
  have hnames : limitAndSwitch.changes.map (fun d => d.2.variableName) = [some "limit", some "open"] := rfl
  intro d hd label hlabel
  have hmem : some label ∈ [some "limit", some "open"] := by
    rw [← hnames, ← hlabel]
    exact List.mem_map_of_mem hd
  have hapart : ∀ name ∈ [some "limit", some "open"], ∀ label ∈ name, beginsWith label "slot_" = false := by
    decide
  exact hapart _ hmem label rfl

theorem run_reports_or_breaks_smallType :
    (∀ f ∈ [setterOf "uint8"], f.HasParameters) ∧ limitAndSwitch.LabelsApart
      ∧ ∃ r, (run limitAndSwitch [setterOf "uint8"] (.str "setLimit") (.arr [.int 300]) none).result = .ok r
        ∧ .badArgument "value" "Value does not fit in uint8" ∈ r.errors := by
  have hcheck : Argument.check (.int 300) "uint8" = .ok (some (.beyondUnsigned 8)) := rfl
  have hfound : AbiFunction.find? (.str "setLimit") [setterOf "uint8"] = .ok (some (setterOf "uint8")) := rfl
  refine ⟨hasParameters_setterOf "uint8", labelsApart_limitAndSwitch, ?_⟩
  rcases run_reports_or_breaks limitAndSwitch [setterOf "uint8"] (.str "setLimit") [.int 300]
    Argument.standardMemory (hasParameters_setterOf "uint8") labelsApart_limitAndSwitch with
    ⟨⟨f, hf, hbreaks⟩, -⟩ | ⟨-, r, hok, hreports⟩ | ⟨-, -, hbare⟩
  · rw [hfound] at hf
    cases hf
    obtain ⟨pair, hpair, typeName, htype, hbreaks⟩ := hbreaks
    obtain rfl := List.mem_singleton.1 hpair
    cases htype
    obtain ⟨fault, herror⟩ := (Argument.exists_check_error_iff _ _ _).2 hbreaks
    cases hcheck.symm.trans herror
  · exact ⟨r, hok, hreports.badArgument _ hfound _ _ List.mem_cons_self "uint8" rfl _ hcheck⟩
  · exact absurd hbare (by decide)

/-- A history with a change of no variable and of a slot without number. -/
def bareSlot : History :=
  (History.empty.addSimulated [⟨"", "0x0", "0x1", none, none, "SET", 0, 0, none⟩] .null).state

theorem labelsApart_bareSlot : bareSlot.LabelsApart := by
  intro d hd label hlabel
  obtain rfl := List.mem_singleton.1 hd
  cases hlabel

/-- Both exceptions are real. A text of too many digits breaks the check against an ordinary type, and so
    does any number the check against a signed type of no bits. A call that counts the entry of a slot
    without number up fails with its snapshot already added. -/
theorem run_escapes_report :
    (∀ typeName, ∀ f ∈ [setterOf typeName], f.HasParameters)
      ∧ limitAndSwitch.LabelsApart ∧ bareSlot.LabelsApart
      ∧ (∃ fault, (run limitAndSwitch [setterOf "uint256"] (.str "setLimit")
        (.arr [.str (String.ofList (List.replicate 4301 '7'))]) none).result = .error fault)
      ∧ (run limitAndSwitch [setterOf "int0"] (.str "setLimit") (.arr [.int 5]) none).result
        = .error .negativeShift
      ∧ (run bareSlot [pokeFunction] (.str "poke") (.arr []) none).result = .error .noEntry
      ∧ (run bareSlot [pokeFunction] (.str "poke") (.arr []) none).state.snapshots.length = 2 := by
  refine ⟨hasParameters_setterOf, labelsApart_limitAndSwitch, labelsApart_bareSlot, ?_, rfl, rfl, rfl⟩
  have hlong : BreaksCheck (setterOf "uint256") [.str (String.ofList (List.replicate 4301 '7'))]
      Argument.standardMemory := by
    refine ⟨_, List.mem_cons_self, "uint256", rfl, Argument.breaks_of_long ?_ ?_ _⟩
    · intro c hc
      rw [String.toList_ofList] at hc
      rw [List.eq_of_mem_replicate hc]
      decide
    · rw [String.toList_ofList, List.length_replicate]
      decide
  obtain ⟨fault, herror⟩ :=
    (exists_problems_error_iff (hasParameters_setterOf "uint256" _ List.mem_cons_self)).2 hlong
  refine ⟨fault, ?_⟩
  rw [run_eq_perform (f := setterOf "uint256") rfl rfl, perform, herror]
  rfl

end Simulation

end EvmScope
