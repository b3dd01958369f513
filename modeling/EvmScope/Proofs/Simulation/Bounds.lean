import EvmScope.Proofs.Simulation.Numbers

set_option autoImplicit false

/-! # Numbers within a word

A storage word holds the integers from zero up to the 256th power of two. A call checks one side of this
range only: whatever it works out must not be negative, but nothing holds it below the bound, and a setter
stores its argument without looking at either side. So the arithmetic of calls is that of integers without
an upper bound, and a call keeps a state within words exactly if the numbers that its effect stands for
fit. -/

namespace EvmScope

/-- A number fits into a storage word. -/
def Word.Fits (n : Int) : Prop := 0 ≤ n ∧ n < 2 ^ 256

instance (n : Int) : Decidable (Word.Fits n) :=
  inferInstanceAs (Decidable (_ ∧ _))

/-- All entries of a state hold numbers that fit into a word. -/
def Projection.WithinWords (state : Projection) : Prop :=
  ∀ key ∈ Table.keys state, ∃ n, state.number? key = some n ∧ Word.Fits n

/-- No number that a state holds is negative. -/
def Projection.Nonneg (state : Projection) : Prop :=
  ∀ key n, state.number? key = some n → 0 ≤ n

namespace Projection

variable {state other : Projection}

theorem WithinWords.nonneg (hwithin : state.WithinWords) : state.Nonneg := by
  intro key n hnumber
  obtain ⟨m, hm, hfits⟩ := hwithin key (mem_keys_of_number? hnumber)
  rw [hnumber] at hm
  cases hm
  exact hfits.1

theorem not_withinWords {key : String} {n : Int} (hnumber : state.number? key = some n)
    (hbeyond : ¬ Word.Fits n) : ¬ state.WithinWords := by
  intro hwithin
  obtain ⟨m, hm, hfits⟩ := hwithin key (mem_keys_of_number? hnumber)
  exact hbeyond (Option.some.inj (hnumber.symm.trans hm) ▸ hfits)

theorem SameNumbers.nonneg (hsame : state.SameNumbers other) (hstate : state.Nonneg) : other.Nonneg := by
  intro key n hnumber
  rw [hsame.number?_eq] at hnumber
  exact hstate key n hnumber

end Projection

/-! ## No number below zero -/

namespace Draft

variable {d next : Draft} {key operation : String} {value : Int}

/-- **One write** of a number leaves no negative one. -/
theorem nonneg_state_of_writeNumber (hok : d.writeNumber key value operation = .ok next)
    (hstate : d.state.Nonneg) : next.state.Nonneg := by
  intro other n hnumber
  rw [number?_of_writeNumber hok] at hnumber
  split at hnumber
  · cases hnumber
    exact nonneg_of_writeNumber hok
  · exact hstate other n hnumber

theorem nonneg_of_transfer {recipient amount : Json} (hok : d.transfer recipient amount = .ok next)
    (hstate : d.state.Nonneg) : next.state.Nonneg := by
  rcases transfer_ok hok with ⟨-, rfl⟩ | ⟨source, n, held, debited, -, -, -, hdebit, hends⟩
  · exact hstate
  · have hdebited := nonneg_state_of_writeNumber hdebit hstate
    rcases hends with ⟨-, rfl⟩ | ⟨balance, -, hcredit⟩
    · exact hdebited
    · exact nonneg_state_of_writeNumber hcredit hdebited

theorem nonneg_of_changeSupply {amount : Json} {sign : Int}
    (hok : d.changeSupply amount sign operation = .ok next) (hstate : d.state.Nonneg) :
    next.state.Nonneg := by
  unfold changeSupply at hok
  cases hsupply : d.find? "totalSupply" with
  | none =>
    rw [hsupply] at hok
    cases hok
    exact hstate
  | some supply =>
    rw [hsupply] at hok
    obtain ⟨held, -, hok⟩ := bind_eq_ok_iff.1 hok
    obtain ⟨n, -, hwrite⟩ := bind_eq_ok_iff.1 hok
    exact nonneg_state_of_writeNumber hwrite hstate

theorem nonneg_of_countUp (hok : d.countUp operation = .ok next) (hstate : d.state.Nonneg) :
    next.state.Nonneg := by
  unfold countUp at hok
  cases htarget : d.findMutable? with
  | none =>
    rw [htarget] at hok
    cases hok
    exact hstate
  | some target =>
    rw [htarget] at hok
    obtain ⟨held, -, hwrite⟩ := bind_eq_ok_iff.1 hok
    exact nonneg_state_of_writeNumber hwrite hstate

end Draft

/-- Every effect that works its numbers out leaves no negative one. -/
theorem Effect.nonneg_of_apply {effect : Effect} {d next : Draft} (hok : effect.apply d = .ok next)
    (hstores : effect.stores = false) (hstate : d.state.Nonneg) : next.state.Nonneg := by
  cases effect with
  | transfer recipient amount => exact Draft.nonneg_of_transfer hok hstate
  | changeSupply amount sign operation => exact Draft.nonneg_of_changeSupply hok hstate
  | assign variableName value => cases hstores
  | countUp operation => exact Draft.nonneg_of_countUp hok hstate

/-! ## Calls -/

namespace Simulation

/-- **Words and calls.** Take a state within words and a call over it that reports no error. If its
    function only reads, the state stays as it is. Otherwise every entry holds the number that the effect
    of the call stands for, worked out on integers without bounds. No such number is negative unless a
    setter stored it, but it can reach the bound, and the new state is within words exactly if all these
    numbers fit. -/
theorem run_fits_iff (h : History) (functions : List AbiFunction) (name arguments : Json)
    (given : Option Projection) (memory : Nat) (f : AbiFunction) (values : List Json) (r : Simulation)
    (hfound : AbiFunction.find? name functions = .ok (some f))
    (hlisted : argumentsOf arguments = .ok values)
    (hstart : (given.getD (h.currentState none)).WithinWords)
    (hok : (run h functions name arguments given memory).result = .ok r) (hnone : r.errors = []) :
    let start := given.getD (h.currentState none)
    let effect := Effect.ofCall f.name values
    (f.isReadOnly = true → r.state = start)
    ∧ (f.isReadOnly = false →
      (∀ key held, start.number? key = some held →
        r.state.number? key = effect.leaves? ⟨start, []⟩ key held)
      ∧ (effect.stores = false → r.state.Nonneg)
      ∧ (r.state.WithinWords ↔ ∀ key held, start.number? key = some held →
        ∃ n, effect.leaves? ⟨start, []⟩ key held = some n ∧ Word.Fits n)) := by
  intro start effect
  rcases run_ok hfound hlisted hok hnone with ⟨hreads, hstate⟩ | ⟨hwrites, draft, happlied, hsame⟩
  · refine ⟨fun _ => hstate, fun hwrites => ?_⟩
    rw [hwrites] at hreads
    cases hreads
  · refine ⟨fun hreads => ?_, fun _ => ?_⟩
    · rw [hwrites] at hreads
      cases hreads
    · have hnumbers : ∀ key held, start.number? key = some held →
          r.state.number? key = effect.leaves? ⟨start, []⟩ key held := fun key held hheld =>
        number?_of_run hfound hlisted hwrites hok hnone hheld
      have hkeys : Table.keys r.state = Table.keys start := by
        obtain ⟨keys, hmade⟩ := Draft.writes_of_apply (Effect.apply_ofCall _ _ _ ▸ happlied)
        exact hsame.keys_eq.trans hmade.keys_eq.1
      refine ⟨hnumbers, fun hstores => ?_, fun hwithin key held hheld => ?_, fun hfits key hkey => ?_⟩
      · exact hsame.nonneg (Effect.nonneg_of_apply happlied hstores hstart.nonneg)
      · rw [← hnumbers key held hheld]
        exact hwithin key (hkeys ▸ Projection.mem_keys_of_number? hheld)
      · obtain ⟨held, hheld, -⟩ := hstart key (hkeys ▸ hkey)
        rw [hnumbers key held hheld]
        exact hfits key held hheld

/-! ## A full supply and a negative difference -/

/-- A function that adds to the supply. -/
def mintFunction : AbiFunction where
  name := "mint"
  inputs := [.obj [("name", .str "amount"), ("type", .str "uint256")]]
  outputs := []
  mutability := .str "nonpayable"

/-- A setter of a signed number. -/
def setDelta : AbiFunction where
  name := "setDelta"
  inputs := [.obj [("name", .str "value"), ("type", .str "int256")]]
  outputs := []
  mutability := .str "nonpayable"

/-- A state with a supply and a difference. -/
def supplyAndDelta (supply : Int) : Projection :=
  [ ("totalSupply", ⟨"Number (uint256)", Numeral.hex supply, "", "0x0", 0, "0x0", "INITIAL"⟩),
    ("delta", ⟨"Signed Number (int256)", "0x0", "0", "0x0", 0, "0x1", "INITIAL"⟩) ]

theorem number?_supplyAndDelta (supply : Int) :
    (supplyAndDelta supply).number? "totalSupply" = some supply
      ∧ (supplyAndDelta supply).number? "delta" = some 0 := by
  refine ⟨?_, rfl⟩
  simp [Projection.number?, supplyAndDelta, Numeral.read?_hex]

theorem withinWords_supplyAndDelta {supply : Int} (hfits : Word.Fits supply) :
    (supplyAndDelta supply).WithinWords := by
  obtain ⟨hsupply, hdelta⟩ := number?_supplyAndDelta supply
  intro key hkey
  rcases List.mem_cons.1 hkey with rfl | hkey
  · exact ⟨supply, hsupply, hfits⟩
  · obtain rfl := List.mem_singleton.1 hkey
    exact ⟨0, hdelta, by decide⟩

theorem run_fits_iff_lastFreeNumber :
    AbiFunction.find? (.str "mint") [mintFunction] = .ok (some mintFunction)
      ∧ argumentsOf (.arr [.int 1]) = .ok [.int 1]
      ∧ (supplyAndDelta (2 ^ 256 - 2)).WithinWords
      ∧ ∃ r, (run History.empty [mintFunction] (.str "mint") (.arr [.int 1])
          (some (supplyAndDelta (2 ^ 256 - 2)))).result = .ok r ∧ r.errors = [] ∧ r.state.WithinWords := by
  have hstart : (supplyAndDelta (2 ^ 256 - 2)).WithinWords := withinWords_supplyAndDelta (by decide)
  obtain ⟨r, hok, hnone⟩ : ∃ r, (run History.empty [mintFunction] (.str "mint") (.arr [.int 1])
      (some (supplyAndDelta (2 ^ 256 - 2)))).result = .ok r ∧ r.errors = [] := ⟨_, rfl, rfl⟩
  refine ⟨rfl, rfl, hstart, r, hok, hnone, ?_⟩
  obtain ⟨-, hwrites⟩ := run_fits_iff History.empty [mintFunction] (.str "mint") (.arr [.int 1])
    (some (supplyAndDelta (2 ^ 256 - 2))) Argument.standardMemory mintFunction [.int 1] r rfl rfl hstart hok hnone
  obtain ⟨-, -, hiff⟩ := hwrites rfl
  refine hiff.2 (fun key held hheld => ?_)
  have hleaves : (Effect.ofCall mintFunction.name [.int 1]).leaves?
      ⟨supplyAndDelta (2 ^ 256 - 2), []⟩ key held = some (if key = "totalSupply" then held + 1 * 1 else held) := rfl
  obtain ⟨hsupply, hdelta⟩ := number?_supplyAndDelta (2 ^ 256 - 2)
  refine ⟨_, hleaves, ?_⟩
  rcases List.mem_cons.1 (Projection.mem_keys_of_number? hheld) with rfl | hkey
  · obtain rfl := Option.some.inj (hheld.symm.trans hsupply)
    decide
  · obtain rfl := List.mem_singleton.1 hkey
    obtain rfl := Option.some.inj (hheld.symm.trans hdelta)
    decide

/-- Both ends of the range can be left by calls whose arguments are accepted and that report no error:
    minting one more over a full supply reaches the bound, and a setter of a signed number stores a
    negative one. -/
theorem run_leaves_words :
    (supplyAndDelta (2 ^ 256 - 1)).WithinWords
      ∧ problems mintFunction [.int 1] Argument.standardMemory = .ok []
      ∧ problems setDelta [.int (-5)] Argument.standardMemory = .ok []
      ∧ (∃ r, (run History.empty [mintFunction] (.str "mint") (.arr [.int 1])
          (some (supplyAndDelta (2 ^ 256 - 1)))).result = .ok r
        ∧ r.errors = [] ∧ r.state.number? "totalSupply" = some (2 ^ 256) ∧ ¬ r.state.WithinWords)
      ∧ (∃ r, (run History.empty [setDelta] (.str "setDelta") (.arr [.int (-5)])
          (some (supplyAndDelta (2 ^ 256 - 1)))).result = .ok r
        ∧ r.errors = [] ∧ r.state.number? "delta" = some (-5) ∧ ¬ r.state.WithinWords) := by
  refine ⟨withinWords_supplyAndDelta (by decide), rfl, rfl, ?_, ?_⟩
  · obtain ⟨r, hok, hnone, hnumber⟩ : ∃ r, (run History.empty [mintFunction] (.str "mint") (.arr [.int 1])
        (some (supplyAndDelta (2 ^ 256 - 1)))).result = .ok r
        ∧ r.errors = [] ∧ r.state.number? "totalSupply" = some (2 ^ 256) := ⟨_, rfl, rfl, rfl⟩
    exact ⟨r, hok, hnone, hnumber, Projection.not_withinWords hnumber (by decide)⟩
  · obtain ⟨r, hok, hnone, hnumber⟩ : ∃ r, (run History.empty [setDelta] (.str "setDelta") (.arr [.int (-5)])
        (some (supplyAndDelta (2 ^ 256 - 1)))).result = .ok r
        ∧ r.errors = [] ∧ r.state.number? "delta" = some (-5) := ⟨_, rfl, rfl, rfl⟩
    exact ⟨r, hok, hnone, hnumber, Projection.not_withinWords hnumber (by decide)⟩

end Simulation

end EvmScope
