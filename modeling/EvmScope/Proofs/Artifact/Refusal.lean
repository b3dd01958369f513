import EvmScope.Artifact.Selection
import EvmScope.Proofs.Traversal

set_option autoImplicit false

/-! # Which documents are refused

A document from which no contract can be loaded is refused with an artifact fault that says why. Two
kinds of documents escape this. Some values are asked for their fields although only their presence was
looked at: the sources, the contracts and the code of a contract in a compilation, and the syntax tree of
a single contract. A document with something else than an object there breaks the reading (`Breaks`), and
nothing else breaks it. And a single contract may have a name that is no text; if it is not the one that is
wanted and has no source path, the refusal cannot name it (`Unlistable`).

Reading a document has one error beside the refusals, so it is followed through the layers by what each
step fails for. -/

namespace EvmScope

/-- A fault that tells what is wrong with an artifact. -/
def Fault.IsRefusal (fault : Fault) : Prop :=
  ∃ cause, fault = .artifact cause

theorem Fault.not_isRefusal_noFields : ¬ Fault.noFields.IsRefusal := by
  rintro ⟨cause, hcause⟩
  cases hcause

theorem Fault.not_isRefusal_wrongKind : ¬ Fault.wrongKind.IsRefusal := by
  rintro ⟨cause, hcause⟩
  cases hcause

namespace Artifact

/-! ## Documents that break the reading -/

/-- A value that is there and has no fields. -/
def Fieldless (value : Json) : Prop :=
  value.isPresent = true ∧ ∀ fields, value ≠ .obj fields

/-- The members of an object; other values have none. -/
def members : Json → List (String × Json)
  | .obj fields => fields
  | _ => []

/-- A compilation in which the sources, the contracts, or the code of some contract has no fields. -/
def CompilationBreaks (fields : List (String × Json)) : Prop :=
  Fieldless (Json.fieldOrNull "sources" fields) ∨ Fieldless (Json.fieldOrNull "contracts" fields)
    ∨ ∃ file ∈ members (Json.fieldOrNull "contracts" fields), ∃ entry ∈ members file.2,
      Fieldless (entry.2.get "evm")

/-- A single contract without a source name whose syntax tree has no fields. -/
def SingleBreaks (fields : List (String × Json)) : Prop :=
  (Json.fieldOrNull "sourceName" fields).isPresent = false
    ∧ Fieldless (Json.fieldOrNull "ast" fields)

/-- A single contract is what a document is taken for. -/
def IsSingle (fields : List (String × Json)) : Prop :=
  hasField fields "contracts" = false
    ∧ (hasField fields "abi" = true ∨ hasField fields "bytecode" = true)

/-- A document of one of the forms that are known. -/
def Recognised : Json → Prop
  | .obj fields => hasField (unwrap fields) "contracts" = true ∨ IsSingle (unwrap fields)
  | _ => False

/-- A document that breaks the reading. -/
def Breaks : Json → Prop
  | .obj fields =>
    hasField (unwrap fields) "contracts" = true ∧ CompilationBreaks (unwrap fields)
      ∨ IsSingle (unwrap fields) ∧ SingleBreaks (unwrap fields)
  | _ => False

/-- A selector that is not empty. -/
def Wants (selector : Option String) : Prop :=
  ∃ wanted, selector = some wanted ∧ wanted ≠ ""

/-- A document of a single contract that a selector does not mean and that cannot be listed: it has no
    source path, and its name is no text. -/
def Unlistable (selector : Option String) : Json → Prop
  | .obj fields =>
    IsSingle (unwrap fields) ∧ sourcePathOf (unwrap fields) = .ok ""
      ∧ (Json.fieldOrNull "contractName" (unwrap fields)).isPresent = true
      ∧ (∀ name, Json.fieldOrNull "contractName" (unwrap fields) ≠ .str name) ∧ Wants selector
  | _ => False

/-- A document of which a contract is loaded with another fault than a refusal. -/
inductive FailsOtherwise (document : Json) (selector : Option String) : Fault → Prop
  | broken (hbreaks : Breaks document) : FailsOtherwise document selector .noFields
  | unlistable (hunlisted : Unlistable selector document) :
    FailsOtherwise document selector .wrongKind

/-! ## Compilations -/

theorem fieldsOf_fails (value : Json) :
    FailsIff (Contract.fieldsOf value) .noFields (Fieldless value) := by
  cases value with
  | obj fields => exact .of_ok rfl (fun hless => hless.2 fields rfl)
  | _ =>
    simp only [Contract.fieldsOf]
    split
    · next hpresent => exact .of_error rfl ⟨hpresent, by simp⟩
    · next habsent => exact .of_ok rfl (fun hless => habsent hless.1)

theorem fieldsOf_ok {value : Json} {fields : List (String × Json)}
    (hok : Contract.fieldsOf value = .ok fields) : fields = members value := by
  cases value with
  | obj found => exact (Except.ok.inj hok).symm
  | _ =>
    simp only [Contract.fieldsOf] at hok
    split at hok
    · cases hok
    · exact (Except.ok.inj hok).symm

section Compilation

variable (sources : List (String × Json)) (path : String)

theorem contractOf?_fails (entry : String × Json) :
    FailsIff (contractOf? sources path entry) .noFields (Fieldless (entry.2.get "evm")) := by
  obtain ⟨name, value⟩ := entry
  cases value with
  | obj fields => exact ((fieldsOf_fails _).map _).map _
  | _ => exact .of_ok rfl (by simp [Fieldless, Json.get, Json.isPresent])

theorem contractsOfFile_fails (file : Json) :
    FailsIff (contractsOfFile sources path file) .noFields
      (∃ entry ∈ members file, Fieldless (entry.2.get "evm")) := by
  cases file with
  | obj entries => exact (FailsIff.mapM (fun entry _ => contractOf?_fails sources path entry)).map _
  | _ => exact .of_ok rfl (by simp [members])

end Compilation

theorem contractsOfCompilation_fails (fields : List (String × Json)) :
    FailsIff (contractsOfCompilation fields) .noFields (CompilationBreaks fields) := by
  refine (fieldsOf_fails _).bind (fun sources _ => (fieldsOf_fails _).bind (fun files hfiles => ?_))
  rw [fieldsOf_ok hfiles]
  exact (FailsIff.mapM (fun file _ => contractsOfFile_fails sources file.1 file.2)).map List.flatten

/-! ## Single contracts -/

theorem sourcePathOf_fails (fields : List (String × Json)) :
    FailsIff (sourcePathOf fields) .noFields (SingleBreaks fields) := by
  unfold sourcePathOf
  dsimp only
  split
  · next hpresent => exact .of_ok rfl (by simp [SingleBreaks, hpresent])
  · next habsent =>
    rw [Bool.not_eq_true] at habsent
    exact ((fieldsOf_fails _).map _).congr (by simp [SingleBreaks, habsent])

theorem singleContract_fails (fields : List (String × Json)) (fallback : String) :
    FailsIff (singleContract fields fallback) .noFields (SingleBreaks fields) :=
  (sourcePathOf_fails fields).map _

theorem singleContract_ok {fields : List (String × Json)} {fallback : String} {c : Contract}
    (hok : singleContract fields fallback = .ok c) :
    sourcePathOf fields = .ok c.sourcePath
      ∧ c.name = (Json.fieldOrNull "contractName" fields).orElse (.str fallback) := by
  obtain ⟨path, hpath, rfl⟩ := map_eq_ok_iff.1 hok
  exact ⟨hpath, rfl⟩

/-! ## Listing contracts -/

/-- The qualified name of a contract is text. -/
def Listable (c : Contract) : Prop :=
  ∃ name, c.qualifiedName = .str name

theorem not_listable_iff (c : Contract) :
    ¬ Listable c ↔ c.sourcePath = "" ∧ ∀ name, c.name ≠ .str name := by
  unfold Listable Contract.qualifiedName
  split
  · next hpath => simp [hpath]
  · next hpath => simp [hpath]

theorem qualifiedNames_fails (contracts : List Contract) :
    FailsIff (qualifiedNames contracts) .wrongKind (∃ c ∈ contracts, ¬ Listable c) := by
  refine FailsIff.mapM (fun c _ => ?_)
  split
  · next name hname => exact .of_ok rfl (not_not_intro ⟨name, hname⟩)
  · next hname => exact .of_error rfl (fun ⟨name, hlisted⟩ => hname name hlisted)

/-- The contracts of a compilation are named in text. -/
theorem contractOf?_named {sources : List (String × Json)} {path : String} {entry : String × Json}
    {c : Contract} (hok : contractOf? sources path entry = .ok (some c)) :
    c.name = .str entry.1 := by
  obtain ⟨name, value⟩ := entry
  cases value with
  | obj fields =>
    obtain ⟨made, hmade, hsome⟩ := map_eq_ok_iff.1 hok
    obtain rfl : made = c := Option.some.inj hsome
    obtain ⟨evm, -, rfl⟩ := map_eq_ok_iff.1 hmade
    rfl
  | _ => cases hok

theorem listable_of_compilation {fields : List (String × Json)} {found : List Contract}
    (hok : contractsOfCompilation fields = .ok found) (c : Contract) (hc : c ∈ found) :
    Listable c := by
  unfold contractsOfCompilation at hok
  obtain ⟨sources, -, hok⟩ := bind_eq_ok_iff.1 hok
  obtain ⟨files, -, hok⟩ := bind_eq_ok_iff.1 hok
  obtain ⟨lists, hlists, hok⟩ := bind_eq_ok_iff.1 hok
  cases hok
  -- the contract is among those of one file, and there among those of the entries
  obtain ⟨list, hlist, hcl⟩ := List.mem_flatten.1 hc
  obtain ⟨file, -, hfile⟩ := exists_of_mem_mapM hlists list hlist
  obtain ⟨path, value⟩ := file
  cases value with
  | obj entries =>
    obtain ⟨outcomes, houtcomes, rfl⟩ := map_eq_ok_iff.1 hfile
    obtain ⟨outcome, houtcome, hsome⟩ := List.mem_filterMap.1 hcl
    obtain rfl : outcome = some c := hsome
    obtain ⟨entry, -, hentry⟩ := exists_of_mem_mapM houtcomes _ houtcome
    by_contra hlisted
    exact ((not_listable_iff c).1 hlisted).2 _ (contractOf?_named hentry)
  | _ =>
    cases hfile
    cases hcl

/-! ## Selecting a contract -/

/-- A fault that lists contracts is a refusal if all of them can be listed. -/
theorem refusal_of_listing {contracts : List Contract} (hlist : ∀ c ∈ contracts, Listable c)
    (cause : List String → ArtifactFault) {fault : Fault}
    (herror : (do
      let names ← qualifiedNames contracts
      .error (.artifact (cause names)) : Except Fault Contract) = .error fault) :
    fault.IsRefusal := by
  cases hnames : qualifiedNames contracts with
  | error other =>
    obtain ⟨⟨c, hc, hunlisted⟩, -⟩ := (qualifiedNames_fails contracts other).1 hnames
    exact absurd (hlist c hc) hunlisted
  | ok names =>
    rw [hnames] at herror
    cases herror
    exact ⟨_, rfl⟩

theorem refusal_of_only {contracts : List Contract} (hlist : ∀ c ∈ contracts, Listable c)
    {fault : Fault} (herror : only contracts = .error fault) : fault.IsRefusal := by
  match contracts with
  | [] =>
    cases herror
    exact ⟨_, rfl⟩
  | [c] => cases herror
  | _ :: _ :: _ => exact refusal_of_listing hlist .ambiguous herror

/-- If all contracts can be listed, a selection fails with a refusal only. -/
theorem refusal_of_select {contracts : List Contract} (hlist : ∀ c ∈ contracts, Listable c)
    {selector : Option String} {fault : Fault} (herror : select contracts selector = .error fault) :
    fault.IsRefusal := by
  unfold select at herror
  split at herror
  · exact refusal_of_only hlist herror
  · next wanted _ =>
    split at herror
    · exact refusal_of_listing hlist (.noSuchContract wanted) herror
    · exact refusal_of_only (fun c hc => hlist c (List.mem_of_mem_filter hc)) herror

/-- A contract that cannot be listed is meant by no selector. -/
theorem isMeant_of_not_listable {c : Contract} (hunlisted : ¬ Listable c) (wanted : String) :
    isMeant wanted c = false := by
  obtain ⟨hpath, hname⟩ := (not_listable_iff c).1 hunlisted
  have hnone : c.name.str? = none := by
    cases hcase : c.name with
    | str name => exact absurd hcase (hname name)
    | _ => rfl
  simp [isMeant, Contract.qualifiedName, hpath, hnone]

/-- A single contract that cannot be listed is loaded without a selector, and it breaks the refusal of
    any selector. -/
theorem select_of_not_listable {c : Contract} (hunlisted : ¬ Listable c) (selector : Option String) :
    (Wants selector → select [c] selector = .error .wrongKind)
      ∧ (¬ Wants selector → select [c] selector = .ok c) := by
  constructor
  · rintro ⟨wanted, rfl, hwanted⟩
    have hgiven : (some wanted).filter (fun s => decide (s ≠ "")) = some wanted := by
      simp [Option.filter, hwanted]
    have hnone : [c].filter (isMeant wanted) = [] := by
      simp [isMeant_of_not_listable hunlisted]
    have hnames := (qualifiedNames_fails [c] .wrongKind).2
      ⟨⟨c, List.mem_singleton_self c, hunlisted⟩, rfl⟩
    simp only [select, hgiven, hnone, hnames]
    rfl
  · intro hnone
    cases selector with
    | none => rfl
    | some wanted =>
      by_cases hempty : wanted = ""
      · subst hempty
        rfl
      · exact absurd ⟨wanted, rfl, hempty⟩ hnone

/-! ## Loading a contract -/

/-- How reading the contracts of a document ends. -/
inductive ContractsEnd (document : Json) (fallback : String) : Except Fault (List Contract) → Prop
  | refused {cause : ArtifactFault} (hunknown : ¬ Recognised document) (hsound : ¬ Breaks document)
    (hselector : ∀ selector, ¬ Unlistable selector document) :
    ContractsEnd document fallback (.error (.artifact cause))
  | broken (hbreaks : Breaks document) (hselector : ∀ selector, ¬ Unlistable selector document) :
    ContractsEnd document fallback (.error .noFields)
  | compilation {found : List Contract} (hknown : Recognised document) (hsound : ¬ Breaks document)
    (hselector : ∀ selector, ¬ Unlistable selector document) (hlist : ∀ c ∈ found, Listable c) :
    ContractsEnd document fallback (.ok found)
  | single {c : Contract} (hknown : Recognised document) (hsound : ¬ Breaks document)
    (hselector : ∀ selector, Unlistable selector document ↔ ¬ Listable c ∧ Wants selector) :
    ContractsEnd document fallback (.ok [c])

section Kinds

variable {fields : List (String × Json)} {fallback : String}

theorem ends_of_compilation (hcompiled : hasField (unwrap fields) "contracts" = true) :
    ContractsEnd (.obj fields) fallback (contractsOfCompilation (unwrap fields)) := by
  have hselector : ∀ selector, ¬ Unlistable selector (.obj fields) := by
    rintro selector ⟨⟨hsingle, -⟩, -⟩
    rw [hcompiled] at hsingle
    cases hsingle
  have hbreaks : CompilationBreaks (unwrap fields) ↔ Breaks (.obj fields) := by
    simp [Breaks, IsSingle, hcompiled]
  have hfails := (contractsOfCompilation_fails (unwrap fields)).congr hbreaks
  cases hread : contractsOfCompilation (unwrap fields) with
  | error fault =>
    obtain ⟨hbroken, rfl⟩ := (hfails fault).1 hread
    exact .broken hbroken hselector
  | ok found =>
    exact .compilation (.inl hcompiled) (hfails.not_reason_of_ok hread) hselector
      (listable_of_compilation hread)

theorem unlistable_iff_of_single (hsingle : IsSingle (unwrap fields)) {c : Contract}
    (hmade : singleContract (unwrap fields) fallback = .ok c) (selector : Option String) :
    Unlistable selector (.obj fields) ↔ ¬ Listable c ∧ Wants selector := by
  obtain ⟨hpath, hname⟩ := singleContract_ok hmade
  rw [Unlistable, not_listable_iff, hpath, hname]
  by_cases hpresent : (Json.fieldOrNull "contractName" (unwrap fields)).isPresent = true
  · simp [hsingle, hpresent, Json.orElse, and_assoc]
  · simp [hpresent, Json.orElse]

theorem ends_of_single (hsingle : IsSingle (unwrap fields)) :
    ContractsEnd (.obj fields) fallback
      ((singleContract (unwrap fields) fallback).map (fun c => [c])) := by
  have hbreaks : SingleBreaks (unwrap fields) ↔ Breaks (.obj fields) := by
    simp [Breaks, hsingle, hsingle.1]
  have hfails := (singleContract_fails (unwrap fields) fallback).congr hbreaks
  cases hmade : singleContract (unwrap fields) fallback with
  | error fault =>
    obtain ⟨hbroken, rfl⟩ := (hfails fault).1 hmade
    refine .broken hbroken ?_
    -- without a source path there is nothing to be listed
    rintro selector ⟨-, hpath, -⟩
    exact (sourcePathOf_fails _).not_reason_of_ok hpath (hbreaks.2 hbroken)
  | ok c =>
    exact .single (.inr hsingle) (hfails.not_reason_of_ok hmade)
      (unlistable_iff_of_single hsingle hmade)

end Kinds

theorem contracts_ends (document : Json) (fallback : String) :
    ContractsEnd document fallback (contracts document fallback) := by
  cases document with
  | obj fields =>
    simp only [contracts]
    split
    · next hcompiled => exact ends_of_compilation hcompiled
    · next hcompiled =>
      rw [Bool.not_eq_true] at hcompiled
      split
      · next hcode => exact ends_of_single ⟨hcompiled, by simpa using hcode⟩
      · next hcode =>
        have hsingle : ¬ IsSingle (unwrap fields) := by
          rintro ⟨-, hfound⟩
          exact hcode (by simpa using hfound)
        exact .refused (by simp [Recognised, hcompiled, hsingle]) (by simp [Breaks, hcompiled, hsingle])
          (fun _ => by simp [Unlistable, hsingle])
  | _ => exact .refused id id (fun _ => id)

/-- Load a contract from a document; `fallback` names it if the document does not. -/
def load (document : Json) (fallback : String) (selector : Option String) :
    Except Fault Contract := do
  let found ← contracts document fallback
  select found selector

theorem ofDocument_eq_load (document : Json) (selector : Option String) :
    ofDocument document selector = load document defaultName selector :=
  rfl

/-- The contracts of a document are read if it has a known form and breaks nothing. -/
theorem exists_contracts_ok_iff (document : Json) (fallback : String) :
    (∃ found, contracts document fallback = .ok found)
      ↔ Recognised document ∧ ¬ Breaks document := by
  have hends := contracts_ends document fallback
  generalize contracts document fallback = made at hends
  cases hends with
  | refused hunknown _ _ =>
    refine iff_of_false ?_ (fun h => hunknown h.1)
    rintro ⟨found, hfound⟩
    cases hfound
  | broken hbreaks _ =>
    refine iff_of_false ?_ (fun h => h.2 hbreaks)
    rintro ⟨found, hfound⟩
    cases hfound
  | compilation hknown hsound _ _ => exact iff_of_true ⟨_, rfl⟩ ⟨hknown, hsound⟩
  | single hknown hsound _ => exact iff_of_true ⟨_, rfl⟩ ⟨hknown, hsound⟩

/-- The contracts of a document are read or it is refused, unless it breaks the reading. -/
theorem contracts_foreign_iff (document : Json) (fallback : String) (fault : Fault) :
    contracts document fallback = .error fault ∧ ¬ fault.IsRefusal
      ↔ Breaks document ∧ fault = .noFields := by
  have hends := contracts_ends document fallback
  generalize contracts document fallback = made at hends
  cases hends with
  | refused _ hsound _ =>
    refine iff_of_false ?_ (fun h => hsound h.1)
    rintro ⟨herror, hforeign⟩
    cases herror
    exact hforeign ⟨_, rfl⟩
  | broken hbreaks _ =>
    constructor
    · rintro ⟨herror, -⟩
      cases herror
      exact ⟨hbreaks, rfl⟩
    · rintro ⟨-, rfl⟩
      exact ⟨rfl, Fault.not_isRefusal_noFields⟩
  | compilation _ hsound _ _ => exact iff_of_false (fun h => by cases h.1) (fun h => hsound h.1)
  | single _ hsound _ => exact iff_of_false (fun h => by cases h.1) (fun h => hsound h.1)

/-- A contract of a document that breaks nothing is selected or refused. -/
theorem refusal_of_load {document : Json} {fallback : String} {selector : Option String}
    (hsound : ¬ Breaks document) (hselector : ¬ Unlistable selector document) {fault : Fault}
    (herror : load document fallback selector = .error fault) : fault.IsRefusal := by
  unfold load at herror
  have hends := contracts_ends document fallback
  generalize contracts document fallback = made at hends herror
  cases hends with
  | refused _ _ _ =>
    cases herror
    exact ⟨_, rfl⟩
  | broken hbreaks _ => exact absurd hbreaks hsound
  | compilation _ _ _ hlist => exact refusal_of_select hlist herror
  | @single c _ _ hsingle =>
    change select [c] selector = .error fault at herror
    by_cases hlist : Listable c
    · exact refusal_of_select (List.forall_mem_singleton.2 hlist) herror
    · have hnone : ¬ Wants selector := fun hwants => hselector ((hsingle selector).2 ⟨hlist, hwants⟩)
      rw [(select_of_not_listable hlist selector).2 hnone] at herror
      cases herror

theorem load_of_failsOtherwise {document : Json} {selector : Option String} {fault : Fault}
    (hfails : FailsOtherwise document selector fault) (fallback : String) :
    load document fallback selector = .error fault := by
  unfold load
  have hends := contracts_ends document fallback
  generalize contracts document fallback = made at hends
  cases hfails with
  | broken hbreaks =>
    cases hends with
    | broken _ _ => rfl
    | refused _ hsound _ => exact absurd hbreaks hsound
    | compilation _ hsound _ _ => exact absurd hbreaks hsound
    | single _ hsound _ => exact absurd hbreaks hsound
  | unlistable hunlisted =>
    cases hends with
    | single _ _ hsingle =>
      obtain ⟨hlist, hwants⟩ := (hsingle selector).1 hunlisted
      exact (select_of_not_listable hlist selector).1 hwants
    | refused _ _ hselector => exact absurd hunlisted (hselector selector)
    | broken _ hselector => exact absurd hunlisted (hselector selector)
    | compilation _ _ hselector _ => exact absurd hunlisted (hselector selector)

/-- A contract is loaded, or the document is refused, or it is one of those that fail otherwise. -/
theorem load_foreign_iff (document : Json) (fallback : String) (selector : Option String)
    (fault : Fault) :
    load document fallback selector = .error fault ∧ ¬ fault.IsRefusal
      ↔ FailsOtherwise document selector fault := by
  constructor
  · rintro ⟨herror, hforeign⟩
    by_cases hbreaks : Breaks document
    · have hbroken : load document fallback selector = .error .noFields :=
        load_of_failsOtherwise (.broken hbreaks) fallback
      rw [hbroken] at herror
      cases herror
      exact .broken hbreaks
    · by_cases hunlisted : Unlistable selector document
      · have hfailed := load_of_failsOtherwise (.unlistable hunlisted) fallback
        rw [hfailed] at herror
        cases herror
        exact .unlistable hunlisted
      · exact absurd (refusal_of_load hbreaks hunlisted herror) hforeign
  · intro hfails
    refine ⟨load_of_failsOtherwise hfails fallback, ?_⟩
    cases hfails with
    | broken _ => exact Fault.not_isRefusal_noFields
    | unlistable _ => exact Fault.not_isRefusal_wrongKind

end Artifact

end EvmScope
