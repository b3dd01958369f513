set_option autoImplicit false

/-! # Tables that keep their order

A table is a list of keys with their values, each key once, in the order in which the keys first came.
Putting a value at a key that is there keeps the key's place; a new key goes to the end. Its view is
`List.lookup`: a put changes the looked-up value of its own key and of no other, and the list of keys
only ever grows at its end. -/

namespace EvmScope.Table

variable {κ α : Type} [DecidableEq κ]

/-- Put a value at a key. -/
def put : List (κ × α) → κ → α → List (κ × α)
  | [], key, value => [(key, value)]
  | (k, old) :: rest, key, value =>
    if k = key then (key, value) :: rest else (k, old) :: put rest key value

/-- The keys of a table in order. -/
def keys (table : List (κ × α)) : List κ :=
  table.map (·.1)

/-- The table of a list of pairs, later values replacing earlier ones of the same key. -/
def ofPairs (pairs : List (κ × α)) : List (κ × α) :=
  pairs.foldl (fun table pair => put table pair.1 pair.2) []

theorem lookup_put_self (table : List (κ × α)) (key : κ) (value : α) :
    (put table key value).lookup key = some value := by
  induction table with
  | nil => simp [put]
  | cons entry rest ih =>
    obtain ⟨k, old⟩ := entry
    by_cases h : k = key
    · simp [put, h]
    · have h' : (key == k) = false := by simpa using fun e => h e.symm
      simp [put, h, List.lookup_cons, h', ih]

theorem lookup_put_of_ne (table : List (κ × α)) (key other : κ) (value : α) (h : other ≠ key) :
    (put table key value).lookup other = table.lookup other := by
  induction table with
  | nil =>
    have h' : (other == key) = false := by simpa using h
    simp [put, List.lookup_cons, h']
  | cons entry rest ih =>
    obtain ⟨k, old⟩ := entry
    by_cases hk : k = key
    · subst hk
      have h' : (other == k) = false := by simpa using h
      simp [put, List.lookup_cons, h']
    · simp [put, hk, List.lookup_cons, ih]

theorem keys_put (table : List (κ × α)) (key : κ) (value : α) :
    keys (put table key value) = if key ∈ keys table then keys table else keys table ++ [key] := by
  induction table with
  | nil => simp [put, keys]
  | cons entry rest ih =>
    obtain ⟨k, old⟩ := entry
    by_cases hk : k = key
    · simp [put, keys, hk]
    · have hk' : ¬ key = k := fun e => hk e.symm
      simp only [keys] at ih
      by_cases hmem : key ∈ rest.map (·.1)
      · simp [put, keys, hk, ih, hmem]
      · simp [put, keys, hk, hk', ih, hmem]

/-- The keys of a table are those at which there is a value. -/
theorem mem_keys_iff_exists_lookup (table : List (κ × α)) (key : κ) :
    key ∈ keys table ↔ ∃ value, table.lookup key = some value := by
  induction table with
  | nil => simp [keys]
  | cons entry rest ih =>
    obtain ⟨k, old⟩ := entry
    simp only [keys] at ih
    by_cases hk : key = k
    · simp [keys, hk]
    · have hk' : (key == k) = false := by simpa using hk
      simp [keys, List.lookup_cons, hk, hk', ih]

/-- What stands in a table after a put was put there or stood there before. -/
theorem eq_or_mem_of_mem_put {table : List (κ × α)} {key : κ} {value : α} {entry : κ × α}
    (hentry : entry ∈ put table key value) : entry = (key, value) ∨ entry ∈ table := by
  induction table with
  | nil => exact .inl (List.mem_singleton.1 hentry)
  | cons first rest ih =>
    obtain ⟨k, old⟩ := first
    rw [put] at hentry
    split at hentry
    · exact (List.mem_cons.1 hentry).imp_right (List.mem_cons_of_mem _)
    · rcases List.mem_cons.1 hentry with rfl | hentry
      · exact .inr List.mem_cons_self
      · exact (ih hentry).imp_right (List.mem_cons_of_mem _)

theorem nodup_keys_put {table : List (κ × α)} (hnodup : (keys table).Nodup) (key : κ) (value : α) :
    (keys (put table key value)).Nodup := by
  rw [keys_put]
  by_cases hmem : key ∈ keys table
  · rwa [if_pos hmem]
  · rw [if_neg hmem]
    refine List.nodup_append.2 ⟨hnodup, List.pairwise_singleton _ key, ?_⟩
    intro k hk other hother heq
    rw [List.mem_singleton.1 hother] at heq
    exact hmem (heq ▸ hk)

/-- A table is determined by its keys, if each stands in it once, and by what is looked up. -/
theorem eq_of_lookup_eq {table other : List (κ × α)} (hnodup : (keys table).Nodup)
    (hkeys : keys table = keys other) (hlookup : ∀ key, table.lookup key = other.lookup key) :
    table = other := by
  induction table generalizing other with
  | nil =>
    cases other with
    | nil => rfl
    | cons entry rest => cases hkeys
  | cons entry rest ih =>
    cases other with
    | nil => cases hkeys
    | cons entry' rest' =>
      obtain ⟨k, value⟩ := entry
      obtain ⟨k', value'⟩ := entry'
      simp only [keys, List.map_cons, List.cons.injEq, List.nodup_cons] at hkeys hnodup
      obtain ⟨rfl, hrest⟩ := hkeys
      have hvalue : value = value' := by
        simpa [List.lookup_cons] using hlookup k
      -- the first key does not come again, so looking it up in the rests finds nothing
      have hagree : ∀ key, rest.lookup key = rest'.lookup key := by
        intro key
        by_cases hk : key = k
        · have hnone : ∀ r : List (κ × α), k ∉ r.map (·.1) → r.lookup k = none := by
            intro r hr
            exact List.lookup_eq_none_iff.2 (fun e he => by
              simpa using fun h : k = e.1 => hr (h ▸ List.mem_map_of_mem he))
          rw [hk, hnone rest hnodup.1, hnone rest' (hrest ▸ hnodup.1)]
        · have hk' : (key == k) = false := by simpa using hk
          simpa [List.lookup_cons, hk'] using hlookup key
      rw [hvalue, ih hnodup.2 hrest hagree]

end EvmScope.Table
