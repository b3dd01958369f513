import Mathlib.Data.List.Forall2

set_option autoImplicit false

/-! # Sequences and traversals that can fail

Two steps in a row succeed exactly if both do. So a traversal of a list by a function that can fail
succeeds exactly if the function succeeds on every member, and then its result has the outcomes in their
order. Where only one error can come up (`FailsIff`), the reasons for it are put together in the same way:
a sequence fails for the reason of either step, a traversal for that of any member. -/

namespace EvmScope

variable {ε α β : Type}

/-- A sequence of two steps succeeds exactly if both do. -/
theorem bind_eq_ok_iff {first : Except ε α} {next : α → Except ε β} {b : β} :
    (first >>= next) = .ok b ↔ ∃ a, first = .ok a ∧ next a = .ok b := by
  cases first with
  | error e =>
    constructor
    · intro hok
      cases hok
    · rintro ⟨a, ha, -⟩
      cases ha
  | ok a =>
    constructor
    · intro hok
      exact ⟨a, rfl, hok⟩
    · rintro ⟨_, ha, hok⟩
      cases ha
      exact hok

theorem map_eq_ok_iff {step : Except ε α} {f : α → β} {b : β} :
    step.map f = .ok b ↔ ∃ a, step = .ok a ∧ f a = b := by
  cases step with
  | error e => simp [Except.map]
  | ok a => simp [Except.map]

/-- A fault seen as another one is no success. -/
theorem mapError_eq_ok_iff {ε' : Type} {step : Except ε α} {f : ε → ε'} {a : α} :
    step.mapError f = .ok a ↔ step = .ok a := by
  cases step with
  | error e => simp [Except.mapError]
  | ok b => simp [Except.mapError]

/-- Whether a step succeeds does not depend on what is made of its outcome. -/
theorem map_unit_eq_ok_iff {step : Except ε α} :
    step.map (fun _ => ()) = .ok () ↔ ∃ a, step = .ok a := by
  simp only [map_eq_ok_iff, and_true]

theorem mapM_eq_ok_iff (f : α → Except ε β) (l : List α) (r : List β) :
    l.mapM f = .ok r ↔ List.Forall₂ (fun a b => f a = .ok b) l r := by
  induction l generalizing r with
  | nil =>
    rw [List.mapM_nil, List.forall₂_nil_left_iff]
    constructor
    · intro h
      exact (Except.ok.inj h).symm
    · rintro rfl
      rfl
  | cons a rest ih =>
    rw [List.mapM_cons, List.forall₂_cons_left_iff, bind_eq_ok_iff]
    constructor
    · rintro ⟨b, ha, hok⟩
      obtain ⟨bs, hrest, hr⟩ := bind_eq_ok_iff.1 hok
      exact ⟨b, bs, ha, (ih bs).1 hrest, (Except.ok.inj hr).symm⟩
    · rintro ⟨b, bs, ha, hrest, rfl⟩
      exact ⟨b, ha, bind_eq_ok_iff.2 ⟨bs, (ih bs).2 hrest, rfl⟩⟩

/-- A traversal by a function that is a total one on the members is a map. -/
theorem mapM_eq_ok_map {f : α → Except ε β} {l : List α} {total : α → β}
    (htotal : ∀ a ∈ l, f a = .ok (total a)) : l.mapM f = .ok (l.map total) := by
  rw [mapM_eq_ok_iff, List.forall₂_map_right_iff, List.forall₂_same]
  exact htotal

/-- A traversal succeeds exactly if the function succeeds on every member. -/
theorem exists_mapM_eq_ok_iff (f : α → Except ε β) (l : List α) :
    (∃ r, l.mapM f = .ok r) ↔ ∀ a ∈ l, ∃ b, f a = .ok b := by
  simp only [mapM_eq_ok_iff]
  induction l with
  | nil => simp
  | cons a rest ih =>
    simp only [List.forall₂_cons_left_iff, List.forall_mem_cons, ← ih]
    constructor
    · rintro ⟨_, b, bs, ha, hrest, rfl⟩
      exact ⟨⟨b, ha⟩, bs, hrest⟩
    · rintro ⟨⟨b, ha⟩, bs, hrest⟩
      exact ⟨b :: bs, b, bs, ha, hrest, rfl⟩

/-- The error of a traversal is that of a member. -/
theorem exists_of_mapM_error {f : α → Except ε β} {l : List α} {e : ε}
    (herror : l.mapM f = .error e) : ∃ a ∈ l, f a = .error e := by
  induction l with
  | nil => cases herror
  | cons a rest ih =>
    rw [List.mapM_cons] at herror
    cases ha : f a with
    | error found =>
      rw [ha] at herror
      cases herror
      exact ⟨a, List.mem_cons_self, ha⟩
    | ok b =>
      rw [ha] at herror
      cases hrest : rest.mapM f with
      | error found =>
        rw [hrest] at herror
        cases herror
        obtain ⟨a', ha', hfa'⟩ := ih hrest
        exact ⟨a', List.mem_cons_of_mem _ ha', hfa'⟩
      | ok bs =>
        rw [hrest] at herror
        cases herror

/-- The error of a fold is that of one of its steps, and the steps before it succeed. -/
theorem exists_split_of_foldlM_error {f : β → α → Except ε β} {l : List α} {start : β} {e : ε}
    (herror : l.foldlM f start = .error e) :
    ∃ done a rest b, l = done ++ a :: rest ∧ done.foldlM f start = .ok b ∧ f b a = .error e := by
  induction l generalizing start with
  | nil => cases herror
  | cons a rest ih =>
    rw [List.foldlM_cons] at herror
    cases ha : f start a with
    | error found =>
      rw [ha] at herror
      cases herror
      exact ⟨[], a, rest, start, rfl, rfl, ha⟩
    | ok next =>
      rw [ha] at herror
      obtain ⟨done, a', behind, b, rfl, hdone, hstep⟩ := ih herror
      refine ⟨a :: done, a', behind, b, rfl, ?_, hstep⟩
      rw [List.foldlM_cons, ha]
      exact hdone

theorem exists_of_foldlM_error {f : β → α → Except ε β} {l : List α} {start : β} {e : ε}
    (herror : l.foldlM f start = .error e) : ∃ a ∈ l, ∃ b, f b a = .error e := by
  obtain ⟨done, a, rest, b, rfl, -, hstep⟩ := exists_split_of_foldlM_error herror
  exact ⟨a, List.mem_append_right done List.mem_cons_self, b, hstep⟩

/-- What holds at the start of a fold and is kept by its steps holds at the end, if all steps succeed. -/
theorem foldlM_induction {f : β → α → Except ε β} {l : List α} {start last : β}
    {motive : List α → β → Prop} (hstart : motive [] start)
    (hstep : ∀ {done : List α} {b next : β} {a : α}, motive done b → f b a = .ok next →
      motive (done ++ [a]) next)
    (hok : l.foldlM f start = .ok last) : motive l last := by
  have hall : ∀ (done : List α) (b : β), motive done b → l.foldlM f b = .ok last →
      motive (done ++ l) last := by
    clear hok
    induction l with
    | nil =>
      intro done b hb hok
      cases hok
      rwa [List.append_nil]
    | cons a rest ih =>
      intro done b hb hok
      rw [List.foldlM_cons] at hok
      obtain ⟨next, hnext, hrest⟩ := bind_eq_ok_iff.1 hok
      rw [List.append_cons]
      exact ih (done ++ [a]) next (hstep hb hnext) hrest
  exact hall [] start hstart hok

/-! ## Steps with one error -/

/-- A step fails exactly for a given reason, and with a given error. -/
def FailsIff (step : Except ε α) (e : ε) (reason : Prop) : Prop :=
  ∀ found, step = .error found ↔ reason ∧ found = e

namespace FailsIff

variable {e : ε} {reason : Prop}

theorem of_ok {step : Except ε α} {a : α} (hok : step = .ok a) (hreason : ¬ reason) :
    FailsIff step e reason := by
  intro found
  simp [hok, hreason]

theorem of_error {step : Except ε α} (herror : step = .error e) (hreason : reason) :
    FailsIff step e reason := by
  intro found
  simp [herror, hreason, eq_comm]

theorem not_reason_of_ok {step : Except ε α} (hfails : FailsIff step e reason) {a : α}
    (hok : step = .ok a) : ¬ reason := by
  intro hreason
  have herror := (hfails e).2 ⟨hreason, rfl⟩
  rw [hok] at herror
  cases herror

theorem congr {other : Prop} {step : Except ε α} (hfails : FailsIff step e reason)
    (hsame : reason ↔ other) : FailsIff step e other := by
  intro found
  rw [hfails found, hsame]

theorem map {step : Except ε α} (hfails : FailsIff step e reason) (f : α → β) :
    FailsIff (step.map f) e reason := by
  intro found
  rw [← hfails found]
  cases step <;> simp [Except.map]

/-- An error that is seen as another one comes up for the same reason. -/
theorem mapError {ε' : Type} {step : Except ε α} (hfails : FailsIff step e reason) (f : ε → ε') :
    FailsIff (step.mapError f) (f e) reason := by
  cases hmade : step with
  | error cause =>
    obtain ⟨hreason, rfl⟩ := (hfails cause).1 hmade
    exact .of_error rfl hreason
  | ok a => exact .of_ok rfl (hfails.not_reason_of_ok hmade)

/-- A sequence fails if its first step fails, or if its second one fails whatever it is given. -/
theorem bind {other : Prop} {first : Except ε α} {next : α → Except ε β}
    (hfirst : FailsIff first e reason) (hnext : ∀ a, first = .ok a → FailsIff (next a) e other) :
    FailsIff (first >>= next) e (reason ∨ other) := by
  intro found
  cases hmade : first with
  | error cause =>
    obtain ⟨hreason, rfl⟩ := (hfirst cause).1 hmade
    change Except.error cause = .error found ↔ _
    simp [hreason, eq_comm]
  | ok a =>
    change next a = .error found ↔ _
    rw [hnext a hmade found, or_iff_right (hfirst.not_reason_of_ok hmade)]

/-- A sequence whose second step cannot fail does so where its first step does. -/
theorem bind_of_ok {first : Except ε α} {next : α → Except ε β} (hfirst : FailsIff first e reason)
    (hnext : ∀ a, ∃ b, next a = .ok b) : FailsIff (first >>= next) e reason := by
  have hnever : ∀ a, first = .ok a → FailsIff (next a) e False := by
    intro a _
    obtain ⟨b, hb⟩ := hnext a
    exact .of_ok hb id
  exact (hfirst.bind hnever).congr (by simp)

/-- A traversal fails if a member does. -/
theorem mapM {reasons : α → Prop} {f : α → Except ε β} {l : List α}
    (hfails : ∀ a ∈ l, FailsIff (f a) e (reasons a)) :
    FailsIff (l.mapM f) e (∃ a ∈ l, reasons a) := by
  intro found
  constructor
  · intro herror
    obtain ⟨a, ha, hfound⟩ := exists_of_mapM_error herror
    obtain ⟨hreason, rfl⟩ := (hfails a ha found).1 hfound
    exact ⟨⟨a, ha, hreason⟩, rfl⟩
  · rintro ⟨⟨a, ha, hreason⟩, rfl⟩
    have hfound := (hfails a ha found).2 ⟨hreason, rfl⟩
    cases hmade : l.mapM f with
    | error cause =>
      obtain ⟨b, hb, hcause⟩ := exists_of_mapM_error hmade
      rw [((hfails b hb cause).1 hcause).2]
    | ok r =>
      obtain ⟨b, hok⟩ := (exists_mapM_eq_ok_iff f l).1 ⟨r, hmade⟩ a ha
      rw [hfound] at hok
      cases hok

end FailsIff

/-! ## Outcomes of traversals -/

/-- Every outcome of a traversal comes from a member. -/
theorem exists_of_mem_mapM {f : α → Except ε β} {l : List α} {r : List β} (hok : l.mapM f = .ok r)
    (b : β) (hb : b ∈ r) : ∃ a ∈ l, f a = .ok b := by
  rw [mapM_eq_ok_iff] at hok
  induction hok with
  | nil => exact absurd hb List.not_mem_nil
  | cons hhead _ ih =>
    rcases List.mem_cons.1 hb with rfl | hrest
    · exact ⟨_, List.mem_cons_self, hhead⟩
    · obtain ⟨a, ha, hfa⟩ := ih hrest
      exact ⟨a, List.mem_cons_of_mem _ ha, hfa⟩

/-- The outcome of every member is among those of a traversal. -/
theorem exists_mem_of_mapM {f : α → Except ε β} {l : List α} {r : List β} (hok : l.mapM f = .ok r)
    (a : α) (ha : a ∈ l) : ∃ b ∈ r, f a = .ok b := by
  rw [mapM_eq_ok_iff] at hok
  induction hok with
  | nil => exact absurd ha List.not_mem_nil
  | cons hhead _ ih =>
    rcases List.mem_cons.1 ha with rfl | hrest
    · exact ⟨_, List.mem_cons_self, hhead⟩
    · obtain ⟨b, hb, hfa⟩ := ih hrest
      exact ⟨b, List.mem_cons_of_mem _ hb, hfa⟩

/-- What is seen of every outcome as of its member is seen of the whole list. -/
theorem map_eq_map_of_mapM {γ : Type} {f : α → Except ε β} {l : List α} {r : List β}
    (hok : l.mapM f = .ok r) (before : α → γ) (after : β → γ)
    (hsame : ∀ a b, f a = .ok b → after b = before a) : r.map after = l.map before := by
  rw [mapM_eq_ok_iff] at hok
  induction hok with
  | nil => rfl
  | cons hhead _ ih => rw [List.map_cons, List.map_cons, ih, hsame _ _ hhead]

end EvmScope
