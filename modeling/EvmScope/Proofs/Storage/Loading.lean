import EvmScope.Proofs.Storage.Reading
import EvmScope.Storage.History

set_option autoImplicit false

/-! # Loading a contract into a history

A contract is loaded into a history in two steps that can fail. The layout is read before anything is
changed, so a layout that cannot be read leaves the history as it was. The descriptors are gone through
afterwards: if they are neither a list nor anything else with items, the variables and the name are those
of the new contract already, and snapshots, words and descriptors are still those of the one before
(`Remains`). -/

namespace EvmScope

/-! ## Documents that cannot be loaded -/

/-- A layout document that cannot be read. -/
def Layout.Unreadable (document : Json) : Prop :=
  HasNoList document ∨ ∃ item ∈ listed document, Breaks (typeTable document) item

/-- The variables of a layout document. -/
def Layout.variablesOf (document : Json) : List StorageVariable :=
  (listed document).filterMap (usable? (typeTable document))

theorem Layout.read_of_readable {document : Json} (hreadable : ¬ Unreadable document) :
    read document = .ok (variablesOf document) := by
  unfold Unreadable at hreadable
  push Not at hreadable
  exact (read_eq_ok_iff document (variablesOf document)).2 ⟨hreadable.1, hreadable.2, rfl⟩

theorem Layout.exists_fault_of_unreadable {document : Json} (hunreadable : Unreadable document) :
    ∃ fault, read document = .error fault := by
  cases hread : read document with
  | error fault => exact ⟨fault, rfl⟩
  | ok declared =>
    obtain ⟨hlist, hsound, -⟩ := (read_eq_ok_iff document declared).1 hread
    rcases hunreadable with hno | ⟨item, hitem, hbreaks⟩
    · exact absurd hno hlist
    · exact absurd hbreaks (hsound item hitem)

namespace History

/-- A value in place of descriptors that has no items: a number other than zero, or `true`. -/
def Itemless (abi : Json) : Prop :=
  abi.isPresent = true ∧ (∀ items, abi ≠ .arr items) ∧ (∀ fields, abi ≠ .obj fields)
    ∧ ∀ text, abi ≠ .str text

theorem items_of_itemless {abi : Json} (habi : Itemless abi) : items abi = .error .wrongKind := by
  obtain ⟨hpresent, harr, hobj, hstr⟩ := habi
  cases abi with
  | arr elements => exact absurd rfl (harr elements)
  | obj fields => exact absurd rfl (hobj fields)
  | str text => exact absurd rfl (hstr text)
  | _ => simp [items, hpresent]

theorem exists_items_of_not_itemless {abi : Json} (habi : ¬ Itemless abi) :
    ∃ descriptors, items abi = .ok descriptors := by
  cases abi with
  | arr elements => exact ⟨_, rfl⟩
  | obj fields => exact ⟨_, rfl⟩
  | str text => exact ⟨_, rfl⟩
  | _ =>
    refine ⟨[], ?_⟩
    rw [items, if_neg]
    · intro hpresent
      exact habi ⟨hpresent, by simp⟩
    all_goals simp

/-! ## Loading into a history -/

/-- What is left of a history into which a contract could not be loaded. -/
inductive Remains (h : History) (layout name : Json) : History → Prop
  | whole (hlayout : Layout.Unreadable layout) : Remains h layout name h
  | renamed (hlayout : ¬ Layout.Unreadable layout) :
    Remains h layout name { h with layout := Layout.variablesOf layout, contractName := name }

/-- How loading ends: it fails before the variables are replaced, it fails behind that, or it succeeds
    and tells so. -/
inductive LayoutEnds (h : History) (layout name abi : Json) :
    HistoryMove (List StorageVariable) → Prop
  | unread {fault : Fault} (hlayout : Layout.Unreadable layout) :
    LayoutEnds h layout name abi (h.refuse fault)
  | halfway (hlayout : ¬ Layout.Unreadable layout) (habi : Itemless abi) :
    LayoutEnds h layout name abi
      (refuse { h with layout := Layout.variablesOf layout, contractName := name } .wrongKind)
  | loaded {descriptors : List Json} (hlayout : ¬ Layout.Unreadable layout) (habi : ¬ Itemless abi) :
    LayoutEnds h layout name abi
      ⟨{ h with layout := Layout.variablesOf layout, contractName := name, abi := descriptors },
        [.contractAnalyzed name descriptors (Layout.variablesOf layout)], .ok (Layout.variablesOf layout)⟩

theorem loadLayout_ends (h : History) (layout name abi : Json) :
    LayoutEnds h layout name abi (h.loadLayout layout name abi) := by
  unfold loadLayout
  by_cases hlayout : Layout.Unreadable layout
  · obtain ⟨fault, hread⟩ := Layout.exists_fault_of_unreadable hlayout
    rw [hread]
    exact .unread hlayout
  · rw [Layout.read_of_readable hlayout]
    by_cases habi : Itemless abi
    · rw [items_of_itemless habi]
      exact .halfway hlayout habi
    · obtain ⟨descriptors, hitems⟩ := exists_items_of_not_itemless habi
      rw [hitems]
      exact .loaded hlayout habi

section Load

variable (h : History) (layout name abi : Json)

theorem exists_loadLayout_error_iff :
    (∃ fault, (h.loadLayout layout name abi).result = .error fault)
      ↔ Layout.Unreadable layout ∨ Itemless abi := by
  have hends := h.loadLayout_ends layout name abi
  generalize h.loadLayout layout name abi = move at hends
  cases hends with
  | unread hlayout => exact iff_of_true ⟨_, rfl⟩ (.inl hlayout)
  | halfway hlayout habi => exact iff_of_true ⟨_, rfl⟩ (.inr habi)
  | loaded hlayout habi =>
    refine iff_of_false ?_ (not_or_intro hlayout habi)
    rintro ⟨fault, hfault⟩
    cases hfault

theorem remains_of_loadLayout_error {fault : Fault}
    (herror : (h.loadLayout layout name abi).result = .error fault) :
    (h.loadLayout layout name abi).events = []
      ∧ h.Remains layout name (h.loadLayout layout name abi).state := by
  have hends := h.loadLayout_ends layout name abi
  generalize h.loadLayout layout name abi = move at hends herror
  cases hends with
  | unread hlayout => exact ⟨rfl, .whole hlayout⟩
  | halfway hlayout habi => exact ⟨rfl, .renamed hlayout⟩
  | loaded hlayout habi => cases herror

end Load

/-- The first values can always be given. -/
theorem exists_deploy_ok (h : History) : ∃ first, h.deploy.result = .ok first := by
  unfold deploy
  split
  · exact ⟨none, rfl⟩
  · exact ⟨_, rfl⟩

end History

end EvmScope
