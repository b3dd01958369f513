import EvmScope.Proofs.Artifact.Refusal
import EvmScope.Table
import Mathlib.Data.List.Nodup

set_option autoImplicit false

/-! # Which selectors mean one contract

A compilation defines its contracts by source path and name (`definitions`), each pair once, and what is
read of it has these contracts in their order. A selector means a definition if it is its name, or its name
behind its path and a colon. Names hold no colon, so the last colon of a qualified name tells path and name
apart, however many colons the path has of its own, and no qualified name is the name of a contract. So a
qualified name means its own contract and no other, while a name means those of all files that define
it. -/

namespace EvmScope.Artifact

/-! ## Definitions -/

/-- The name that an entry of a source file defines, if it describes a contract. -/
def definedName? : String × Json → Option String
  | (name, .obj _) => some name
  | _ => none

/-- The contracts that source files define, by path and name. -/
def definitions (files : List (String × Json)) : List (String × String) :=
  files.flatMap (fun file => ((members file.2).filterMap definedName?).map (file.1, ·))

/-- The name of a definition with its path in front. -/
def qualified (d : String × String) : String := d.1 ++ ":" ++ d.2

/-- Whether a selector means a definition. -/
def means (selector : String) (d : String × String) : Bool :=
  selector == d.2 || selector == qualified d

/-- Source files whose paths are all different and not empty, and which each define a name once; names are
    not empty and have no colon. -/
structure ProperlyNamed (files : List (String × Json)) : Prop where
  nodup_paths : (Table.keys files).Nodup
  nodup_names : ∀ file ∈ files, (Table.keys (members file.2)).Nodup
  path_ne : ∀ file ∈ files, file.1 ≠ ""
  name_ne : ∀ file ∈ files, ∀ entry ∈ members file.2, entry.1 ≠ ""
  no_colon : ∀ file ∈ files, ∀ entry ∈ members file.2, ':' ∉ entry.1.toList

theorem sublist_filterMap_definedName? (entries : List (String × Json)) :
    (entries.filterMap definedName?).Sublist (Table.keys entries) := by
  induction entries with
  | nil => exact .slnil
  | cons entry rest ih =>
    obtain ⟨name, value⟩ := entry
    cases value with
    | obj fields => exact ih.cons_cons name
    | _ => exact ih.cons name

/-- A definition has the path of its file and the name of one of its entries. -/
theorem exists_entry_of_mem_definitions {files : List (String × Json)} {d : String × String}
    (hd : d ∈ definitions files) :
    ∃ file ∈ files, d.1 = file.1 ∧ ∃ entry ∈ members file.2, d.2 = entry.1 := by
  obtain ⟨file, hfile, hd⟩ := List.mem_flatMap.1 hd
  obtain ⟨name, hname, rfl⟩ := List.mem_map.1 hd
  have hkey := (sublist_filterMap_definedName? (members file.2)).subset hname
  obtain ⟨entry, hentry, hsame⟩ := List.mem_map.1 hkey
  exact ⟨file, hfile, rfl, entry, hentry, hsame.symm⟩

namespace ProperlyNamed

variable {files : List (String × Json)} {d : String × String}

theorem nodup_definitions (hnamed : ProperlyNamed files) : (definitions files).Nodup := by
  refine List.nodup_flatMap.2 ⟨fun file hfile => ?_, ?_⟩
  · have hnames := (hnamed.nodup_names file hfile).sublist (sublist_filterMap_definedName? _)
    exact hnames.map (fun name other hsame => (Prod.mk.inj hsame).2)
  · have hpaths := List.pairwise_map.1 hnamed.nodup_paths
    refine hpaths.imp (fun {file other} hne => ?_)
    intro d hd hother
    obtain ⟨name, -, rfl⟩ := List.mem_map.1 hd
    obtain ⟨name', -, hsame⟩ := List.mem_map.1 hother
    exact hne (Prod.mk.inj hsame).1.symm

theorem path_ne_of_mem (hnamed : ProperlyNamed files) (hd : d ∈ definitions files) : d.1 ≠ "" := by
  obtain ⟨file, hfile, hpath, -⟩ := exists_entry_of_mem_definitions hd
  rw [hpath]
  exact hnamed.path_ne file hfile

theorem name_ne_of_mem (hnamed : ProperlyNamed files) (hd : d ∈ definitions files) : d.2 ≠ "" := by
  obtain ⟨file, hfile, -, entry, hentry, hname⟩ := exists_entry_of_mem_definitions hd
  rw [hname]
  exact hnamed.name_ne file hfile entry hentry

theorem no_colon_of_mem (hnamed : ProperlyNamed files) (hd : d ∈ definitions files) :
    ':' ∉ d.2.toList := by
  obtain ⟨file, hfile, -, entry, hentry, hname⟩ := exists_entry_of_mem_definitions hd
  rw [hname]
  exact hnamed.no_colon file hfile entry hentry

end ProperlyNamed

/-! ## Qualified names -/

theorem toList_qualified (d : String × String) :
    (qualified d).toList = d.1.toList ++ ':' :: d.2.toList := by
  simp [qualified]

/-- A qualified name is no name without a colon. -/
theorem qualified_ne {name : String} (hname : ':' ∉ name.toList) (d : String × String) :
    qualified d ≠ name := by
  rintro rfl
  rw [toList_qualified] at hname
  exact hname (List.mem_append_right _ List.mem_cons_self)

/-- Texts in two parts with a separator between them are told apart if the last parts are without it. -/
theorem append_separator_inj {α : Type} {separator : α} {front front' back back' : List α}
    (hback : separator ∉ back) (hback' : separator ∉ back')
    (hsame : front ++ separator :: back = front' ++ separator :: back') :
    front = front' ∧ back = back' := by
  -- one front is the beginning of the other, and what is over would have to begin with the separator
  rcases List.append_eq_append_iff.1 hsame with ⟨more, hfront, hrest⟩ | ⟨more, hfront, hrest⟩
  · cases more with
    | nil =>
      rw [List.append_nil] at hfront
      exact ⟨hfront.symm, (List.cons.inj hrest).2⟩
    | cons c more =>
      rw [(List.cons.inj hrest).2] at hback
      exact absurd (List.mem_append_right more List.mem_cons_self) hback
  · cases more with
    | nil =>
      rw [List.append_nil] at hfront
      exact ⟨hfront, (List.cons.inj hrest).2.symm⟩
    | cons c more =>
      rw [(List.cons.inj hrest).2] at hback'
      exact absurd (List.mem_append_right more List.mem_cons_self) hback'

/-- **A qualified name** tells the path and the name. -/
theorem qualified_inj {d other : String × String} (hd : ':' ∉ d.2.toList) (hother : ':' ∉ other.2.toList)
    (hsame : qualified d = qualified other) : d = other := by
  have hlist := congrArg String.toList hsame
  rw [toList_qualified, toList_qualified] at hlist
  obtain ⟨hpath, hname⟩ := append_separator_inj hd hother hlist
  exact Prod.ext (String.toList_injective hpath) (String.toList_injective hname)

/-! ## The contracts that are read -/

/-- A contract has the path and the name of a definition. -/
def Has (c : Contract) (d : String × String) : Prop :=
  c.sourcePath = d.1 ∧ c.name = .str d.2

theorem contractOf?_has {sources : List (String × Json)} {path : String} {entry : String × Json}
    {outcome : Option Contract} (hok : contractOf? sources path entry = .ok outcome) :
    outcome.map (fun c => (c.sourcePath, c.name))
      = (definedName? entry).map (fun name => (path, Json.str name)) := by
  obtain ⟨name, value⟩ := entry
  cases value with
  | obj fields =>
    obtain ⟨c, hc, rfl⟩ := map_eq_ok_iff.1 hok
    obtain ⟨evm, -, rfl⟩ := map_eq_ok_iff.1 hc
    rfl
  | _ =>
    cases hok
    rfl

theorem contractsOfFile_have {sources : List (String × Json)} {path : String} {file : Json}
    {found : List Contract} (hok : contractsOfFile sources path file = .ok found) :
    found.map (fun c => (c.sourcePath, c.name))
      = ((members file).filterMap definedName?).map (fun name => (path, Json.str name)) := by
  cases file with
  | obj entries =>
    obtain ⟨outcomes, houtcomes, rfl⟩ := map_eq_ok_iff.1 hok
    have hseen := map_eq_map_of_mapM houtcomes _ _ (fun _ _ => contractOf?_has)
    have hkept := congrArg (List.filterMap id) hseen
    simpa only [members, List.filterMap_map, List.map_filterMap, Function.id_comp, Function.comp_def,
      id_eq] using hkept
  | _ =>
    cases hok
    rfl

/-- **What is read of a compilation** are the contracts that it defines, in their order. -/
theorem contractsOfCompilation_have {fields : List (String × Json)} {found : List Contract}
    (hok : contractsOfCompilation fields = .ok found) :
    List.Forall₂ Has found (definitions (members (Json.fieldOrNull "contracts" fields))) := by
  unfold contractsOfCompilation at hok
  obtain ⟨sources, -, hok⟩ := bind_eq_ok_iff.1 hok
  obtain ⟨files, hfiles, hok⟩ := bind_eq_ok_iff.1 hok
  obtain ⟨lists, hlists, hok⟩ := bind_eq_ok_iff.1 hok
  cases hok
  have hseen := map_eq_map_of_mapM hlists _ _ (fun _ _ => contractsOfFile_have)
  have hall : lists.flatten.map (fun c => (c.sourcePath, c.name))
      = (definitions files).map (fun d => (d.1, Json.str d.2)) := by
    rw [List.map_flatten, hseen, definitions, List.map_flatMap, List.flatMap_def]
    simp only [List.map_map, Function.comp_def]
  rw [← fieldsOf_ok hfiles]
  have hrelated : List.Forall₂ (· = ·) (lists.flatten.map (fun c => (c.sourcePath, c.name)))
      ((definitions files).map (fun d => (d.1, Json.str d.2))) := by
    rw [hall, List.forall₂_eq_eq_eq]
  rw [List.forall₂_map_left_iff, List.forall₂_map_right_iff] at hrelated
  exact hrelated.imp (fun c d hsame => Prod.mk.inj hsame)

namespace Has

variable {c : Contract} {d : String × String}

theorem qualifiedName_eq (hc : Has c d) (hpath : d.1 ≠ "") : c.qualifiedName = .str (qualified d) := by
  rw [Contract.qualifiedName, hc.1, if_neg hpath, hc.2]
  rfl

theorem isMeant_eq (hc : Has c d) (hpath : d.1 ≠ "") (selector : String) :
    isMeant selector c = means selector d := by
  have hflip : ∀ text : String, ((Json.str text).str? == some selector) = (selector == text) := by
    intro text
    change (text == selector) = (selector == text)
    exact Bool.beq_comm
  rw [isMeant, hc.2, hc.qualifiedName_eq hpath, hflip, hflip, means]

end Has

/-! ## Selecting among them -/

section Selecting

variable {found : List Contract} {defined : List (String × String)}

/-- The contracts that a selector means have the definitions that it means. -/
theorem filter_isMeant (hfound : List.Forall₂ Has found defined) (hpaths : ∀ d ∈ defined, d.1 ≠ "")
    (selector : String) :
    List.Forall₂ Has (found.filter (isMeant selector)) (defined.filter (means selector)) := by
  induction hfound with
  | nil => exact .nil
  | @cons c d cs ds hc _ ih =>
    obtain ⟨hpath, hpaths⟩ := List.forall_mem_cons.1 hpaths
    have hsame := hc.isMeant_eq hpath selector
    cases hmeans : means selector d with
    | true =>
      rw [List.filter_cons_of_pos (hsame.trans hmeans), List.filter_cons_of_pos hmeans]
      exact .cons hc (ih hpaths)
    | false =>
      rw [List.filter_cons_of_neg (by rw [hsame, hmeans]; exact Bool.false_ne_true),
        List.filter_cons_of_neg (by rw [hmeans]; exact Bool.false_ne_true)]
      exact ih hpaths

theorem qualifiedNames_eq (hfound : List.Forall₂ Has found defined) (hpaths : ∀ d ∈ defined, d.1 ≠ "") :
    qualifiedNames found = .ok (defined.map qualified) := by
  rw [qualifiedNames, mapM_eq_ok_iff, List.forall₂_map_right_iff]
  induction hfound with
  | nil => exact .nil
  | cons hc _ ih =>
    obtain ⟨hpath, hpaths⟩ := List.forall_mem_cons.1 hpaths
    refine .cons ?_ (ih hpaths)
    rw [hc.qualifiedName_eq hpath]

/-- How a choice of the only one of some definitions ends. -/
inductive Chosen : List (String × String) → Except Fault Contract → Prop
  | nothing : Chosen [] (.error (.artifact .noContracts))
  | one {c : Contract} {d : String × String} (hc : Has c d) : Chosen [d] (.ok c)
  | several {first second : String × String} {rest : List (String × String)} :
    Chosen (first :: second :: rest)
      (.error (.artifact (.ambiguous ((first :: second :: rest).map qualified))))

theorem chosen_only (hfound : List.Forall₂ Has found defined) (hpaths : ∀ d ∈ defined, d.1 ≠ "") :
    Chosen defined (only found) := by
  cases hfound with
  | nil => exact .nothing
  | cons hc hrest =>
    cases hrest with
    | nil => exact .one hc
    | cons hsecond hrest =>
      have hnames := qualifiedNames_eq (.cons hc (.cons hsecond hrest)) hpaths
      unfold only
      dsimp only
      rw [hnames]
      exact .several

/-- A selector chooses the only one of the definitions that it means, or it names no contract. -/
theorem select_eq (hfound : List.Forall₂ Has found defined) (hpaths : ∀ d ∈ defined, d.1 ≠ "")
    {selector : String} (hselector : selector ≠ "") :
    select found (some selector) = if defined.filter (means selector) = [] then
        .error (.artifact (.noSuchContract selector (defined.map qualified)))
      else only (found.filter (isMeant selector)) := by
  have hgiven : (some selector).filter (fun s => decide (s ≠ "")) = some selector := by
    simp [Option.filter, hselector]
  have hmeant := filter_isMeant hfound hpaths selector
  unfold select
  rw [hgiven]
  dsimp only
  generalize found.filter (isMeant selector) = meant at hmeant ⊢
  generalize defined.filter (means selector) = chosen at hmeant ⊢
  cases hmeant with
  | nil =>
    rw [if_pos rfl, qualifiedNames_eq hfound hpaths]
    rfl
  | cons hc hrest => rw [if_neg (List.cons_ne_nil _ _)]

theorem exists_ok_iff_length_eq_one {outcome : Except Fault Contract} (hchosen : Chosen defined outcome) :
    (∃ c, outcome = .ok c) ↔ defined.length = 1 := by
  cases hchosen with
  | nothing => simp
  | one hc => simp
  | several => simp

/-- A selector succeeds exactly if it means one definition. -/
theorem exists_select_ok_iff (hfound : List.Forall₂ Has found defined) (hpaths : ∀ d ∈ defined, d.1 ≠ "")
    {selector : String} (hselector : selector ≠ "") :
    (∃ c, select found (some selector) = .ok c) ↔ defined.countP (means selector) = 1 := by
  have hmeant : ∀ d ∈ defined.filter (means selector), d.1 ≠ "" := fun d hd =>
    hpaths d (List.mem_of_mem_filter hd)
  have hchosen := chosen_only (filter_isMeant hfound hpaths selector) hmeant
  rw [select_eq hfound hpaths hselector, List.countP_eq_length_filter]
  by_cases hnone : defined.filter (means selector) = []
  · simp [hnone]
  · rw [if_neg hnone]
    exact exists_ok_iff_length_eq_one hchosen

/-- A contract is selected by what means its definition and no other. -/
theorem select_of_means_one (hfound : List.Forall₂ Has found defined) (hpaths : ∀ d ∈ defined, d.1 ≠ "")
    {selector : String} (hselector : selector ≠ "") {c : Contract} (hc : c ∈ found)
    (hmeant : isMeant selector c = true) {d : String × String}
    (hone : defined.filter (means selector) = [d]) : select found (some selector) = .ok c := by
  rw [select_eq hfound hpaths hselector, hone, if_neg (List.cons_ne_nil _ _)]
  have hfiltered := filter_isMeant hfound hpaths selector
  have hmem : c ∈ found.filter (isMeant selector) := List.mem_filter.2 ⟨hc, hmeant⟩
  rw [hone] at hfiltered
  generalize found.filter (isMeant selector) = meant at hfiltered hmem
  cases hfiltered with
  | cons hhead hrest =>
    cases hrest
    rw [List.mem_singleton.1 hmem]
    rfl

/-- A selector that means several definitions is refused with their qualified names. -/
theorem select_of_means_several (hfound : List.Forall₂ Has found defined)
    (hpaths : ∀ d ∈ defined, d.1 ≠ "") {selector : String} (hselector : selector ≠ "")
    (hseveral : 1 < defined.countP (means selector)) : select found (some selector)
      = .error (.artifact (.ambiguous ((defined.filter (means selector)).map qualified))) := by
  have hmeant : ∀ d ∈ defined.filter (means selector), d.1 ≠ "" := fun d hd =>
    hpaths d (List.mem_of_mem_filter hd)
  have hchosen := chosen_only (filter_isMeant hfound hpaths selector) hmeant
  rw [select_eq hfound hpaths hselector]
  rw [List.countP_eq_length_filter] at hseveral
  generalize only (found.filter (isMeant selector)) = outcome at hchosen ⊢
  generalize defined.filter (means selector) = chosen at hseveral hchosen ⊢
  cases hchosen with
  | nothing => exact absurd hseveral (Nat.not_lt_zero 1)
  | one hc => exact absurd hseveral (Nat.lt_irrefl 1)
  | several => exact if_neg (List.cons_ne_nil _ _)

end Selecting

/-! ## What selectors mean -/

/-- In a list without repetitions the only member of a kind is all that is left of it. -/
theorem filter_eq_singleton {α : Type} [DecidableEq α] {l : List α} (hnodup : l.Nodup) {a : α} (ha : a ∈ l)
    {p : α → Bool} (hp : ∀ b ∈ l, p b = true ↔ b = a) : l.filter p = [a] := by
  have hsame : l.filter p = l.filter (· == a) := by
    refine List.filter_congr (fun b hb => ?_)
    rw [Bool.eq_iff_iff, hp b hb, beq_iff_eq]
  rw [hsame, List.filter_beq, List.count_eq_one_of_mem hnodup ha]
  rfl

/-- Of two different members of a kind there are more than one. -/
theorem one_lt_countP {α : Type} {l : List α} {p : α → Bool} {a b : α} (ha : a ∈ l) (hb : b ∈ l)
    (hpa : p a = true) (hpb : p b = true) (hne : a ≠ b) : 1 < l.countP p := by
  have ha : a ∈ l.filter p := List.mem_filter.2 ⟨ha, hpa⟩
  have hb : b ∈ l.filter p := List.mem_filter.2 ⟨hb, hpb⟩
  rw [List.countP_eq_length_filter]
  generalize l.filter p = kind at ha hb
  match kind with
  | [] => exact absurd ha List.not_mem_nil
  | [c] => exact absurd ((List.mem_singleton.1 ha).trans (List.mem_singleton.1 hb).symm) hne
  | _ :: _ :: rest => exact Nat.succ_lt_succ (Nat.succ_pos rest.length)

section Means

variable {files : List (String × Json)} {d other : String × String}

theorem means_qualified_iff (hnamed : ProperlyNamed files) (hd : d ∈ definitions files)
    (hother : other ∈ definitions files) : means (qualified d) other = true ↔ other = d := by
  have hname := hnamed.no_colon_of_mem hd
  have hname' := hnamed.no_colon_of_mem hother
  rw [means, Bool.or_eq_true, beq_iff_eq, beq_iff_eq]
  constructor
  · rintro (hshort | hlong)
    · exact absurd hshort (qualified_ne hname' d)
    · exact (qualified_inj hname hname' hlong).symm
  · rintro rfl
    exact Or.inr rfl

theorem means_name_iff {name : String} (hname : ':' ∉ name.toList) :
    means name other = true ↔ other.2 = name := by
  rw [means, Bool.or_eq_true, beq_iff_eq, beq_iff_eq]
  constructor
  · rintro (hshort | hlong)
    · exact hshort.symm
    · exact absurd hlong.symm (qualified_ne hname other)
  · rintro rfl
    exact Or.inl rfl

/-- A qualified name means its own definition alone. -/
theorem filter_means_qualified (hnamed : ProperlyNamed files) (hd : d ∈ definitions files) :
    (definitions files).filter (means (qualified d)) = [d] :=
  filter_eq_singleton hnamed.nodup_definitions hd
    (fun _ hother => means_qualified_iff hnamed hd hother)

/-- A name means the definitions of this name. -/
theorem filter_means_name {name : String} (hname : ':' ∉ name.toList) (defined : List (String × String)) :
    defined.filter (means name) = defined.filter (fun other => other.2 = name) := by
  refine List.filter_congr (fun other _ => ?_)
  rw [Bool.eq_iff_iff, means_name_iff hname, decide_eq_true_iff]

/-- A name that one file defines means this definition alone. -/
theorem filter_means_name_of_sole (hnamed : ProperlyNamed files) (hd : d ∈ definitions files)
    (hsole : ∀ path, (path, d.2) ∈ definitions files → path = d.1) :
    (definitions files).filter (means d.2) = [d] := by
  refine filter_eq_singleton hnamed.nodup_definitions hd (fun other hother => ?_)
  rw [means_name_iff (hnamed.no_colon_of_mem hd)]
  constructor
  · intro hsame
    refine Prod.ext (hsole other.1 ?_) hsame
    rwa [← hsame]
  · rintro rfl
    rfl

/-- A name that another file defines too means several definitions. -/
theorem one_lt_countP_means_name (hnamed : ProperlyNamed files) (hd : d ∈ definitions files) {path : String}
    (hpath : (path, d.2) ∈ definitions files) (hne : path ≠ d.1) :
    1 < (definitions files).countP (means d.2) := by
  have hcolon := hnamed.no_colon_of_mem hd
  refine one_lt_countP hd hpath ((means_name_iff hcolon).2 rfl) ((means_name_iff hcolon).2 rfl) ?_
  intro hsame
  exact hne (congrArg Prod.fst hsame).symm

end Means

/-! ## Documents -/

/-- The document of a compilation with some source files, alone or inside a build record: the contracts are
    an object, and so are the sources and the code of each contract if they are there. -/
structure IsCompilation (document : Json) (files : List (String × Json)) : Prop where
  exists_fields : ∃ fields, document = .obj fields
    ∧ (unwrap fields).lookup "contracts" = some (.obj files) ∧ ¬ CompilationBreaks (unwrap fields)
  named : ProperlyNamed files

/-- A document whose contracts can be selected one by one, and only so. -/
structure Selects (document : Json) (defined : List (String × String)) (found : List Contract) : Prop where
  /-- The contracts are the defined ones in their order. -/
  has : List.Forall₂ Has found defined
  by_qualifiedName : ∀ c ∈ found, ∀ selector, c.qualifiedName = .str selector →
    ofDocument document (some selector) = .ok c
  by_name : ∀ c ∈ found, ∀ name, c.name = .str name →
    (∀ path, (path, name) ∈ defined → path = c.sourcePath) → ofDocument document (some name) = .ok c
  /-- A name that some other file defines too is refused, with all contracts that it means. -/
  ambiguous : ∀ c ∈ found, ∀ name, c.name = .str name →
    (∃ path, (path, name) ∈ defined ∧ path ≠ c.sourcePath) → ofDocument document (some name)
      = .error (.artifact (.ambiguous ((defined.filter (fun d => d.2 = name)).map qualified)))
  unselected_iff : (∃ c, ofDocument document none = .ok c) ↔ found.length = 1
  /-- Any other selector succeeds exactly if it means one contract. -/
  selected_iff : ∀ selector, selector ≠ "" →
    ((∃ c, ofDocument document (some selector) = .ok c) ↔ defined.countP (means selector) = 1)

theorem exists_has_of_mem {found : List Contract} {defined : List (String × String)}
    (hfound : List.Forall₂ Has found defined) {c : Contract} (hc : c ∈ found) : ∃ d ∈ defined, Has c d := by
  induction hfound with
  | nil => exact absurd hc List.not_mem_nil
  | cons hhead _ ih =>
    rcases List.mem_cons.1 hc with rfl | hrest
    · exact ⟨_, List.mem_cons_self, hhead⟩
    · obtain ⟨d, hd, hhas⟩ := ih hrest
      exact ⟨d, List.mem_cons_of_mem _ hd, hhas⟩

theorem IsCompilation.exists_contracts {document : Json} {files : List (String × Json)}
    (hdocument : IsCompilation document files) (fallback : String) :
    ∃ found, contracts document fallback = .ok found ∧ List.Forall₂ Has found (definitions files) := by
  obtain ⟨fields, rfl, hfiles, hsound⟩ := hdocument.exists_fields
  have hcompiled : hasField (unwrap fields) "contracts" = true := by
    rw [hasField, hfiles]
    rfl
  have hread : contracts (.obj fields) fallback = contractsOfCompilation (unwrap fields) := by
    simp only [contracts, hcompiled, if_true]
  have hmembers : members (Json.fieldOrNull "contracts" (unwrap fields)) = files := by
    rw [Json.fieldOrNull, hfiles]
    rfl
  rw [hread]
  cases hmade : contractsOfCompilation (unwrap fields) with
  | error fault => exact absurd ((contractsOfCompilation_fails _ fault).1 hmade).1 hsound
  | ok found => exact ⟨found, rfl, hmembers ▸ contractsOfCompilation_have hmade⟩

/-- **Contracts are selected one by one.** What is read of a compilation are the contracts that its files
    define, in their order. Each of them is loaded by its qualified name, and by its name if no other file
    defines the name; else the name is refused as ambiguous. Without a selector loading succeeds exactly if
    there is one contract, and with one exactly if it means one. -/
theorem exists_selects_of_compilation {document : Json} {files : List (String × Json)}
    (hdocument : IsCompilation document files) :
    ∃ found, contracts document defaultName = .ok found
      ∧ Selects document (definitions files) found := by
  obtain ⟨found, hread, hfound⟩ := hdocument.exists_contracts defaultName
  have hnamed := hdocument.named
  have hpaths : ∀ d ∈ definitions files, d.1 ≠ "" := fun d hd => hnamed.path_ne_of_mem hd
  have hload : ∀ selector, ofDocument document selector = select found selector := by
    intro selector
    rw [ofDocument, hread]
    rfl
  have hdefined : ∀ c ∈ found, ∃ d ∈ definitions files, Has c d := fun c hc =>
    exists_has_of_mem hfound hc
  refine ⟨found, hread, hfound, ?_, ?_, ?_, ?_, ?_⟩
  · intro c hc selector hselector
    obtain ⟨d, hd, hhas⟩ := hdefined c hc
    rw [hhas.qualifiedName_eq (hpaths d hd)] at hselector
    obtain rfl := Json.str.inj hselector
    rw [hload]
    exact select_of_means_one hfound hpaths (qualified_ne List.not_mem_nil d) hc
      ((hhas.isMeant_eq (hpaths d hd) _).trans ((means_qualified_iff hnamed hd hd).2 rfl))
      (filter_means_qualified hnamed hd)
  · intro c hc name hname hsole
    obtain ⟨d, hd, hhas⟩ := hdefined c hc
    obtain rfl : d.2 = name := Json.str.inj (hhas.2.symm.trans hname)
    rw [hhas.1] at hsole
    rw [hload]
    exact select_of_means_one hfound hpaths (hnamed.name_ne_of_mem hd) hc
      ((hhas.isMeant_eq (hpaths d hd) _).trans ((means_name_iff (hnamed.no_colon_of_mem hd)).2 rfl))
      (filter_means_name_of_sole hnamed hd hsole)
  · rintro c hc name hname ⟨path, hpath, hne⟩
    obtain ⟨d, hd, hhas⟩ := hdefined c hc
    obtain rfl : d.2 = name := Json.str.inj (hhas.2.symm.trans hname)
    rw [hhas.1] at hne
    rw [hload, select_of_means_several hfound hpaths (hnamed.name_ne_of_mem hd)
      (one_lt_countP_means_name hnamed hd hpath hne), filter_means_name (hnamed.no_colon_of_mem hd)]
  · rw [hload, hfound.length_eq]
    exact exists_ok_iff_length_eq_one (chosen_only hfound hpaths)
  · intro selector hselector
    simp only [hload]
    exact exists_select_ok_iff hfound hpaths hselector

/-- A build record of two files, the path of one with a colon in it, of which both define a name. -/
def sharedName : Json :=
  .obj [("output", .obj [("contracts", .obj [
    ("lib:a.sol", .obj [("Token", .obj []), ("Vault", .obj [("evm", .obj [])])]),
    ("b.sol", .obj [("Token", .obj [])])])])]

theorem exists_selects_of_compilation_sharedName : ∃ files, IsCompilation sharedName files
    ∧ definitions files = [("lib:a.sol", "Token"), ("lib:a.sol", "Vault"), ("b.sol", "Token")]
    ∧ ∃ found, contracts sharedName defaultName = .ok found
      ∧ Selects sharedName (definitions files) found := by
  have hdocument : IsCompilation sharedName [
      ("lib:a.sol", .obj [("Token", .obj []), ("Vault", .obj [("evm", .obj [])])]),
      ("b.sol", .obj [("Token", .obj [])])] := by
    refine ⟨⟨_, rfl, rfl, ?_⟩, ⟨?_, ?_, ?_, ?_, ?_⟩⟩
    · rintro (hsources | hcontracts | ⟨file, hfile, entry, hentry, hless⟩)
      · cases hsources.1
      · exact hcontracts.2 _ rfl
      · -- no contract has more than an empty object for its code
        have hcode : (entry.2.get "evm").isPresent = false := by
          change file ∈ [_, _] at hfile
          simp only [List.mem_cons, List.not_mem_nil, or_false] at hfile
          rcases hfile with rfl | rfl
          · change entry ∈ [_, _] at hentry
            simp only [List.mem_cons, List.not_mem_nil, or_false] at hentry
            rcases hentry with rfl | rfl
            · rfl
            · rfl
          · change entry ∈ [_] at hentry
            rw [List.mem_singleton.1 hentry]
            rfl
        rw [hless.1] at hcode
        cases hcode
    · decide
    · simp [members, Table.keys]
    · simp
    · simp only [members, List.forall_mem_cons, List.not_mem_nil, false_implies, implies_true, and_true]
      decide
    · simp only [members, List.forall_mem_cons, List.not_mem_nil, false_implies, implies_true, and_true]
      decide
  exact ⟨_, hdocument, rfl, exists_selects_of_compilation hdocument⟩

end EvmScope.Artifact
