import EvmScope.Proofs.Simulation.Argument
import EvmScope.Proofs.Simulation.Commitment
import EvmScope.Proofs.Simulation.Writes

set_option autoImplicit false

/-! # Simulated setters

A call of a setter writes the word of its argument to the variable that the setter is named for, and adds
this one change to the history. Only setters that just read and those whose names speak of minting or burning
come to something else. The word is the number that was passed if the argument is plain. Any other spelling
that the check lets pass, such as one with blanks around it or a truth value in letters, is stored by the
bytes of its characters: the setter then records another word than for the number itself. -/

namespace EvmScope

namespace AbiFunction

/-- The name of a function speaks of minting or burning, which counts before all else that it says. -/
def movesSupply (f : AbiFunction) : Bool :=
  containsText (toSmall f.name) "mint" || containsText (toSmall f.name) "burn"

/-- A function that is named for setting something and has one parameter, an integer or a truth value. -/
structure IsSetter (f : AbiFunction) (typeName : String) : Prop where
  exists_parameter : ∃ parameter, f.inputs = [parameter]
    ∧ AbiFunction.typeName parameter = .ok typeName
  named : beginsWith (toSmall f.name) "set" = true
  scalar : (Argument.typeOf typeName).isScalar = true

end AbiFunction

/-! ## Effects -/

namespace Draft

variable {d next : Draft} {key word operation : String} {f : AbiFunction} {argument : Json}

theorem mem_keys_of_find? {name : String} (hfound : d.find? name = some key) :
    key ∈ Table.keys d.state := by
  rcases Option.or_eq_some_iff.1 hfound with hsame | ⟨-, hcontains⟩
  · exact List.mem_of_find?_eq_some hsame
  · exact List.mem_of_find?_eq_some hcontains

theorem write_of_lookup {entry : StateEntry} (hentry : d.state.lookup key = some entry) :
    d.write key word operation = .ok ⟨Table.put d.state key (written entry word operation),
      changeOf entry key word operation :: d.changes⟩ := by
  unfold write
  rw [hentry]
  rfl

theorem apply_of_setter (hnamed : beginsWith (toSmall f.name) "set" = true)
    (hkept : f.movesSupply = false) :
    d.apply f.name [argument] = d.assign (dropChars 3 f.name) argument := by
  rw [AbiFunction.movesSupply, Bool.or_eq_false_iff] at hkept
  simp only [apply, apply.applyToFirst, hkept.1, hkept.2, hnamed, Bool.false_eq_true, if_false, if_true]

theorem apply_of_movesSupply (hmoves : f.movesSupply = true) :
    ∃ sign operation, (operation = "MINT" ∨ operation = "BURN")
      ∧ d.apply f.name [argument] = d.changeSupply argument sign operation := by
  by_cases hmints : containsText (toSmall f.name) "mint" = true
  · refine ⟨1, "MINT", Or.inl rfl, ?_⟩
    simp only [apply, apply.applyToFirst, hmints, if_true]
  · rw [AbiFunction.movesSupply, eq_false_of_ne_true hmints, Bool.false_or] at hmoves
    refine ⟨-1, "BURN", Or.inr rfl, ?_⟩
    simp only [apply, apply.applyToFirst, hmints, hmoves, Bool.false_eq_true, if_false, if_true]

/-- A change of the supply is recorded under its own operation. -/
theorem operation_of_changeSupply {sign : Int} (hok : d.changeSupply argument sign operation = .ok next)
    {c : StateChange} (hc : c ∈ next.changes) : c ∈ d.changes ∨ c.operation = operation := by
  unfold changeSupply at hok
  cases hsupply : d.find? "totalSupply" with
  | none =>
    rw [hsupply] at hok
    cases hok
    exact Or.inl hc
  | some supply =>
    rw [hsupply] at hok
    obtain ⟨held, -, hok⟩ := bind_eq_ok_iff.1 hok
    obtain ⟨n, -, hok⟩ := bind_eq_ok_iff.1 hok
    obtain ⟨entry, -, -, hchanges⟩ := write_ok (write_of_writeNumber hok)
    rw [hchanges] at hc
    rcases List.mem_cons.1 hc with rfl | hold
    · exact Or.inr rfl
    · exact Or.inl hold

end Draft

/-! ## Calls -/

namespace Simulation

variable {h : History} {functions : List AbiFunction} {name argument : Json} {f : AbiFunction}
  {given : Option Projection} {typeName target word : String} {memory : Nat}

/-- A call sets a variable to a word. It adds one snapshot, whose one change writes the word to the entry of
    the variable, and it returns this change if the change leads back to an entry. -/
structure Sets (h : History) (start : Projection) (target word : String)
    (move : HistoryMove Simulation) : Prop where
  exists_snapshot : ∃ entry s, start.lookup target = some entry
    ∧ s.id = h.snapshots.length ∧ s.changes = [Draft.changeOf entry target word "SET"]
    ∧ move.state.snapshots = h.snapshots ++ [s] ∧ move.events = [.snapshotCreated s]
    ∧ ((∃ r, move.result = .ok r ∧ r.errors = [] ∧ r.changes = s.changes)
      ∨ (move.result = .error .noEntry
        ∧ (Draft.changeOf entry target word "SET").key ∉ Table.keys start))

theorem problems_of_setter (hsetter : f.IsSetter typeName)
    (hcheck : Argument.check argument typeName memory = .ok none) : problems f [argument] memory = .ok [] := by
  obtain ⟨parameter, hinputs, htype⟩ := hsetter.exists_parameter
  have hproblem : problem? parameter argument memory = .ok none := by
    simp only [problem?, htype, hcheck, bind, Except.bind, pure, Except.pure, Option.map_none]
  simp [problems, hinputs, hproblem, bind, Except.bind, pure, Except.pure, Except.map]

theorem run_of_isReadOnly (hfound : AbiFunction.find? name functions = .ok (some f))
    (hsetter : f.IsSetter typeName) (hcheck : Argument.check argument typeName memory = .ok none)
    (hreads : f.isReadOnly = true) :
    run h functions name (.arr [argument]) given memory
      = .stay h (.ok (without (given.getD (h.currentState none)) [])) := by
  rw [run_eq_perform hfound rfl]
  simp only [perform, problems_of_setter hsetter hcheck, hreads, if_true]

/-- Marking the entry of one change fails only if there is none. -/
theorem stamp_singleton (snapshot : Nat) (state : Projection) (c : StateChange) :
    (∃ stamped, stamp snapshot state [c] = .ok stamped)
      ∨ (stamp snapshot state [c] = .error .noEntry ∧ c.key ∉ Table.keys state) := by
  rw [stamp, List.foldlM_cons]
  cases hentry : state.lookup c.key with
  | some entry => exact Or.inl ⟨_, rfl⟩
  | none =>
    refine Or.inr ⟨rfl, fun hkey => ?_⟩
    obtain ⟨entry, hsome⟩ := (Table.mem_keys_iff_exists_lookup _ _).1 hkey
    rw [hentry] at hsome
    cases hsome

/-- **A call of a setter** sets the variable it is named for to the word that its argument is stored as. -/
theorem sets_of_setter (hfound : AbiFunction.find? name functions = .ok (some f))
    (hsetter : f.IsSetter typeName) (hcheck : Argument.check argument typeName memory = .ok none)
    (hwrites : f.isReadOnly = false) (hkept : f.movesSupply = false)
    (htarget : Draft.find? ⟨given.getD (h.currentState none), []⟩ (dropChars 3 f.name) = some target)
    (hword : Draft.wordOf argument = .ok word) :
    Sets h (given.getD (h.currentState none)) target word
      (run h functions name (.arr [argument]) given memory) := by
  generalize hstart : given.getD (h.currentState none) = start at htarget ⊢
  obtain ⟨entry, hentry⟩ :=
    (Table.mem_keys_iff_exists_lookup _ _).1 (Draft.mem_keys_of_find? htarget)
  have happlied : Draft.apply ⟨start, []⟩ f.name [argument]
      = .ok ⟨Table.put start target (Draft.written entry word "SET"),
        [Draft.changeOf entry target word "SET"]⟩ := by
    rw [Draft.apply_of_setter hsetter.named hkept]
    simp only [Draft.assign, htarget, hword, bind, Except.bind]
    exact Draft.write_of_lookup hentry
  subst hstart
  rw [Makes.run_eq ⟨hfound, rfl, problems_of_setter hsetter hcheck, hwrites, happlied,
    List.cons_ne_nil _ _⟩]
  refine ⟨entry, snapshotOf h f [argument] [Draft.changeOf entry target word "SET"], hentry, rfl, rfl,
    congrArg History.snapshots (state_commit ..), events_commit .., ?_⟩
  rw [result_commit, List.reverse_singleton]
  rcases stamp_singleton h.snapshots.length
    (Table.put (given.getD (h.currentState none)) target (Draft.written entry word "SET"))
    (Draft.changeOf entry target word "SET") with ⟨stamped, hstamp⟩ | ⟨hstamp, hkey⟩
  · rw [hstamp]
    exact Or.inl ⟨_, rfl, rfl, rfl⟩
  · rw [hstamp]
    rw [Table.keys_put, if_pos (Draft.mem_keys_of_find? htarget)] at hkey
    exact Or.inr ⟨rfl, hkey⟩

/-- A call of a setter that speaks of minting or burning sets nothing. -/
theorem operation_of_movesSupply (hfound : AbiFunction.find? name functions = .ok (some f))
    (hmoves : f.movesSupply = true) {s : Snapshot}
    (hs : s ∈ (run h functions name (.arr [argument]) given memory).state.snapshots) :
    s ∈ h.snapshots ∨ ∀ c ∈ s.changes, c.operation = "MINT" ∨ c.operation = "BURN" := by
  have hends := run_ends h functions name (.arr [argument]) given memory
  generalize run h functions name (.arr [argument]) given memory = move at hends hs
  cases hends with
  | refused fault => exact Or.inl hs
  | rejected errors herrors => exact Or.inl hs
  | idle => exact Or.inl hs
  | @committed other values draft hmakes =>
    obtain rfl : other = f := by
      have hsame := hmakes.found.symm.trans hfound
      cases hsame
      rfl
    obtain rfl : [argument] = values := by
      have hsame := hmakes.listed
      cases hsame
      rfl
    obtain ⟨sign, operation, hnamed, happly⟩ : ∃ sign operation,
        (operation = "MINT" ∨ operation = "BURN")
          ∧ Draft.apply ⟨given.getD (h.currentState none), []⟩ other.name [argument]
            = Draft.changeSupply ⟨given.getD (h.currentState none), []⟩ argument sign operation :=
      Draft.apply_of_movesSupply hmoves
    rw [state_commit] at hs
    rcases List.mem_append.1 hs with hold | hnew
    · exact Or.inl hold
    · right
      rw [List.mem_singleton.1 hnew]
      intro c hc
      have hoperation := Draft.operation_of_changeSupply (happly.symm.trans hmakes.applied)
        (List.mem_reverse.1 hc)
      rw [hoperation.resolve_left List.not_mem_nil]
      exact hnamed

/-- **One value, several spellings.** Call a setter with two accepted arguments that denote one number. If it
    only reads, nothing happens. If it speaks of minting or burning, nothing is set. Otherwise each call sets
    the variable that the setter is named for to the stored word of its argument. This is the number exactly
    if the argument is plain, and the two words are the same exactly if both arguments are plain or they are
    spelled alike. -/
theorem run_setter_stores_plain (h : History) (functions : List AbiFunction) (name : Json)
    (given : Option Projection) (f : AbiFunction) (typeName target : String) (first second : Json) (n : Int)
    (memory : Nat)
    (hfound : AbiFunction.find? name functions = .ok (some f)) (hsetter : f.IsSetter typeName)
    (htarget : Draft.find? ⟨given.getD (h.currentState none), []⟩ (dropChars 3 f.name) = some target)
    (hfirst : Argument.check first typeName memory = .ok none)
    (hsecond : Argument.check second typeName memory = .ok none)
    (hfirst_value : Argument.valueOf? first = some n)
    (hsecond_value : Argument.valueOf? second = some n) :
    let start := given.getD (h.currentState none)
    let call := fun argument => run h functions name (.arr [argument]) given memory
    let stored := fun argument => Argument.storedWord argument n
    (f.isReadOnly = true → call first = .stay h (.ok (without start [])))
    ∧ (f.movesSupply = true → ∀ s ∈ (call first).state.snapshots,
      s ∈ h.snapshots ∨ ∀ c ∈ s.changes, c.operation = "MINT" ∨ c.operation = "BURN")
    ∧ (f.isReadOnly = false → f.movesSupply = false →
      Sets h start target (stored first) (call first) ∧ Sets h start target (stored second) (call second))
    ∧ (stored first = Numeral.hex n ↔ Argument.isPlain first = true)
    ∧ (stored first = stored second
      ↔ first = second ∨ (Argument.isPlain first = true ∧ Argument.isPlain second = true)) := by
  intro start call stored
  have hfirst_ne := Argument.ne_empty_of_check hfirst
  have hsecond_ne := Argument.ne_empty_of_check hsecond
  have hfirst_word := Argument.wordOf_eq hsetter.scalar hfirst hfirst_value
  have hsecond_word := Argument.wordOf_eq hsetter.scalar hsecond hsecond_value
  refine ⟨run_of_isReadOnly hfound hsetter hfirst,
    fun hmoves s hs => operation_of_movesSupply hfound hmoves hs, fun hwrites hkept => ⟨?_, ?_⟩,
    Argument.storedWord_eq_hex_iff hfirst_ne hfirst_value,
    Argument.storedWord_eq_iff hfirst_ne hsecond_ne hfirst_value hsecond_value⟩
  · exact sets_of_setter hfound hsetter hfirst hwrites hkept htarget hfirst_word
  · exact sets_of_setter hfound hsetter hsecond hwrites hkept htarget hsecond_word

/-! ## A limit and a switch -/

/-- A setter of a limit. -/
def setLimit : AbiFunction where
  name := "setLimit"
  inputs := [.obj [("name", .str "value"), ("type", .str "uint256")]]
  outputs := []
  mutability := .str "nonpayable"

/-- A setter of a switch. -/
def setOpen : AbiFunction where
  name := "setOpen"
  inputs := [.obj [("name", .str "value"), ("type", .str "bool")]]
  outputs := []
  mutability := .str "nonpayable"

/-- A history of a limit and a switch that nothing has happened to. -/
def limitAndSwitch : History :=
  let layout : Json := .obj
    [ ("storage", .arr
        [ .obj [("label", .str "limit"), ("slot", .str "0"), ("type", .str "t_uint256")],
          .obj [("label", .str "open"), ("slot", .str "1"), ("type", .str "t_bool")] ]),
      ("types", .obj
        [ ("t_uint256", .obj [("label", .str "uint256"), ("numberOfBytes", .str "32")]),
          ("t_bool", .obj [("label", .str "bool"), ("numberOfBytes", .str "1")]) ]) ]
  (History.empty.loadLayout layout (.str "Gate") (.arr [])).state.deploy.state

theorem isSetter_setLimit : setLimit.IsSetter "uint256" :=
  ⟨⟨_, rfl, rfl⟩, rfl, rfl⟩

theorem isSetter_setOpen : setOpen.IsSetter "bool" :=
  ⟨⟨_, rfl, rfl⟩, rfl, rfl⟩

theorem run_setter_stores_plain_setLimit :
    let call := fun argument => run limitAndSwitch [setLimit] (.str "setLimit") (.arr [argument]) none
    AbiFunction.find? (.str "setLimit") [setLimit] = .ok (some setLimit)
      ∧ setLimit.IsSetter "uint256"
      ∧ Draft.find? ⟨limitAndSwitch.currentState none, []⟩ (dropChars 3 setLimit.name) = some "limit"
      ∧ Argument.check (.str " 5 ") "uint256" = .ok none
      ∧ Argument.check (.int 5) "uint256" = .ok none
      ∧ Argument.valueOf? (.str " 5 ") = some 5
      ∧ Argument.valueOf? (.int 5) = some 5
      ∧ Sets limitAndSwitch (limitAndSwitch.currentState none) "limit" "0x203520" (call (.str " 5 "))
      ∧ Sets limitAndSwitch (limitAndSwitch.currentState none) "limit" "0x5" (call (.int 5)) := by
  intro call
  obtain ⟨-, -, hsets, -, -⟩ := run_setter_stores_plain limitAndSwitch [setLimit] (.str "setLimit") none
    setLimit "uint256" "limit" (.str " 5 ") (.int 5) 5 Argument.standardMemory rfl isSetter_setLimit rfl rfl rfl rfl rfl
  have hbytes : Argument.storedWord (.str " 5 ") 5 = "0x203520" := by
    rw [Argument.storedWord, if_neg (by decide), Draft.utf8Hex_eq]
    rfl
  have hnumber : Argument.storedWord (.int 5) 5 = "0x5" := rfl
  obtain ⟨hblanks, hplain⟩ := hsets rfl rfl
  refine ⟨rfl, isSetter_setLimit, rfl, rfl, rfl, rfl, rfl, ?_, ?_⟩
  · rw [← hbytes]
    exact hblanks
  · rw [← hnumber]
    exact hplain

/-- The difference is real: `setOpen` is passed the same truth value twice. As a value it is stored as zero;
    in letters it is stored by their bytes, and people are shown the opposite. -/
theorem run_setOpen_stores_letters :
    let call := fun argument => run limitAndSwitch [setOpen] (.str "setOpen") (.arr [argument]) none
    Argument.check (.bool false) "bool" = .ok none
      ∧ Argument.check (.str "false") "bool" = .ok none
      ∧ Argument.valueOf? (.bool false) = some 0
      ∧ Argument.valueOf? (.str "false") = some 0
      ∧ Sets limitAndSwitch (limitAndSwitch.currentState none) "open" "0x0" (call (.bool false))
      ∧ Sets limitAndSwitch (limitAndSwitch.currentState none) "open" "0x66616c7365"
        (call (.str "false"))
      ∧ Word.display "0x66616c7365" (some "Boolean") = "true" := by
  intro call
  have hletters : Draft.wordOf (.str "false") = .ok "0x66616c7365" := by
    have hbytes : Argument.storedWord (.str "false") 0 = "0x66616c7365" := by
      rw [Argument.storedWord, if_neg (by decide), Draft.utf8Hex_eq]
      rfl
    have hcheck : Argument.check (.str "false") "bool" = .ok none := rfl
    rw [← hbytes]
    exact Argument.wordOf_eq isSetter_setOpen.scalar hcheck rfl
  have hsets : ∀ argument word, Argument.check argument "bool" = .ok none →
      Draft.wordOf argument = .ok word →
      Sets limitAndSwitch ((none : Option Projection).getD (limitAndSwitch.currentState none)) "open" word
        (call argument) := by
    intro argument word hcheck hword
    exact sets_of_setter rfl isSetter_setOpen hcheck rfl rfl rfl hword
  exact ⟨rfl, rfl, rfl, rfl, hsets _ _ rfl rfl, hsets _ _ rfl hletters, rfl⟩

end Simulation

end EvmScope
