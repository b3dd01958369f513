set_option autoImplicit false

/-! # Sets of characters

A property of characters that a standard lists by ranges is held as its **flip points**: the
increasing list of the code points at which membership changes, starting outside the set. The set
`{a, …, b-1} ∪ {c, …, d-1}` is `[a, b, c, d]`. Membership of a character is then the parity of the
number of flip points at or below it, which one walk along the list decides. -/

namespace EvmScope

/-- A set of characters, as the increasing list of code points at which membership changes. -/
structure CharSet where
  /-- The code points at which membership changes; below the first one nothing is a member. -/
  flips : List Nat

namespace CharSet

/-- Walk along the flip points that are at or below `code`, turning membership over at each. -/
def walk (code : Nat) : Bool → List Nat → Bool
  | inside, [] => inside
  | inside, flip :: rest => if code < flip then inside else walk code (!inside) rest

/-- Membership of a character. -/
def contains (set : CharSet) (c : Char) : Bool :=
  walk c.toNat false set.flips

end CharSet

end EvmScope
