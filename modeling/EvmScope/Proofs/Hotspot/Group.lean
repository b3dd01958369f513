import EvmScope.Proofs.Hotspot.Runtime

set_option autoImplicit false

/-! # Groups hold the charges of their range

The groups are built by a fold over the placed charges into a hash table. `getElem?_ofPlacements`
says what the table holds at the end: at every range the charges that were placed there, added up in
their order. The fold is followed at one range only, where a charge of another range changes
nothing. -/

namespace EvmScope

/-- The ends of the range of a mapping. -/
def Mapping.range (m : Mapping) : Int × Int := (m.start, m.finish)

/-- The charges that were placed, with the mappings of their places. -/
def placedShares (placed : List (Charge × Placement)) : List (Charge × Mapping) :=
  placed.filterMap (fun (charge, placement) =>
    match placement with
    | .placed mapping => some (charge, mapping)
    | _ => none)

theorem placedShares_cons_placed (charge : Charge) (mapping : Mapping)
    (rest : List (Charge × Placement)) :
    placedShares ((charge, .placed mapping) :: rest) = (charge, mapping) :: placedShares rest := rfl

namespace Group

/-- Add a placed charge to the group of its range, which begins with it if need be. -/
def extend (group? : Option Group) (share : Charge × Mapping) : Option Group :=
  some ((group?.getD (Group.empty share.2.fileIndex)).add share.1)

/-- The group of the charges of one range: their gas added up, their names with the last one first. -/
def ofShares (shares : List (Charge × Mapping)) : Option Group :=
  shares.head?.map (fun first =>
    { fileIndex := first.2.fileIndex
      gas := (shares.map (·.1.gas)).sum
      mnemonics := (shares.map (·.1.mnemonic)).reverse
      refined := shares.any (·.1.refined) })

theorem foldl_extend_some (shares : List (Charge × Mapping)) (group : Group) :
    shares.foldl extend (some group)
      = some ⟨group.fileIndex, group.gas + (shares.map (·.1.gas)).sum,
          (shares.map (·.1.mnemonic)).reverse ++ group.mnemonics,
          group.refined || shares.any (·.1.refined)⟩ := by
  induction shares generalizing group with
  | nil => simp
  | cons share rest ih =>
    rw [List.foldl_cons, extend, Option.getD_some, ih, Group.add]
    simp only [List.map_cons, List.sum_cons, List.reverse_cons, List.append_assoc,
      List.singleton_append, List.any_cons, Bool.or_assoc, Int.add_assoc]

theorem foldl_extend_none (shares : List (Charge × Mapping)) :
    shares.foldl extend none = ofShares shares := by
  cases shares with
  | nil => rfl
  | cons share rest =>
    rw [List.foldl_cons, extend, Option.getD_none, foldl_extend_some, ofShares, Group.add,
      Group.empty]
    simp

end Group

namespace Groups

/-- A placed charge goes to the group of its range and leaves the other groups alone. -/
theorem getElem?_place (groups : Groups) (charge : Charge) (mapping : Mapping)
    (range : Int × Int) :
    (groups.place (charge, .placed mapping))[range]?
      = if mapping.range = range then Group.extend groups[range]? (charge, mapping)
        else groups[range]? := by
  rw [place, Std.HashMap.getElem?_alter]
  by_cases hrange : mapping.range = range
  · subst hrange
    simp [Mapping.range, Group.extend]
  · have hbeq : ((mapping.start, mapping.finish) == range) = false := by
      rw [beq_eq_false_iff_ne]
      exact hrange
    rw [hbeq, if_neg Bool.false_ne_true, if_neg hrange]

theorem getElem?_foldl_place (placed : List (Charge × Placement)) (groups : Groups)
    (range : Int × Int) :
    (placed.foldl place groups)[range]?
      = ((placedShares placed).filter (fun share => share.2.range = range)).foldl Group.extend
          groups[range]? := by
  induction placed generalizing groups with
  | nil => rfl
  | cons entry rest ih =>
    obtain ⟨charge, placement⟩ := entry
    rw [List.foldl_cons, ih]
    cases placement with
    | placed mapping =>
      -- only a charge of this range extends the group that is looked at
      rw [getElem?_place, placedShares_cons_placed, List.filter_cons]
      by_cases hrange : mapping.range = range
      · simp only [hrange, if_true, decide_true, List.foldl_cons]
      · simp only [hrange, if_false, decide_false, Bool.false_eq_true]
    | free => rfl
    | unmapped => rfl
    | elsewhere => rfl

/-- **What a group holds.** At every range the table has the group of the charges that were placed
    there, and nothing where none was. -/
theorem getElem?_ofPlacements (placed : List (Charge × Placement)) (range : Int × Int) :
    (ofPlacements placed)[range]?
      = Group.ofShares ((placedShares placed).filter (fun share => share.2.range = range)) := by
  rw [ofPlacements, getElem?_foldl_place, Std.HashMap.getElem?_empty, Group.foldl_extend_none]

theorem mem_keys_iff (groups : Groups) (range : Int × Int) :
    range ∈ groups.keys ↔ ∃ group, groups[range]? = some group := by
  rw [Std.HashMap.mem_keys, ← Std.HashMap.isSome_getElem?_iff_mem, Option.isSome_iff_exists]

/-- The ranges with a group are those at which a charge was placed. -/
theorem mem_keys_ofPlacements (placed : List (Charge × Placement)) (range : Int × Int) :
    range ∈ (ofPlacements placed).keys ↔ ∃ share ∈ placedShares placed, share.2.range = range := by
  rw [mem_keys_iff, ← Option.isSome_iff_exists, getElem?_ofPlacements, Group.ofShares,
    Option.isSome_map, List.isSome_head?]
  simp

/-- Charges without a place do not touch the groups. -/
theorem foldl_place_eq (placed : List (Charge × Placement)) (groups : Groups) :
    placed.foldl place groups
      = (placedShares placed).foldl (fun groups share => groups.place (share.1, .placed share.2))
          groups := by
  induction placed generalizing groups with
  | nil => rfl
  | cons entry rest ih =>
    obtain ⟨charge, placement⟩ := entry
    rw [List.foldl_cons, ih]
    cases placement with
    | placed mapping => rw [placedShares_cons_placed, List.foldl_cons]
    | free => rfl
    | unmapped => rfl
    | elsewhere => rfl

theorem ofPlacements_congr {placed others : List (Charge × Placement)}
    (hsame : placedShares placed = placedShares others) :
    ofPlacements placed = ofPlacements others := by
  rw [ofPlacements, ofPlacements, foldl_place_eq, foldl_place_eq, hsame]

end Groups

end EvmScope
