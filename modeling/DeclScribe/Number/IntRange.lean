/-!
# Powers and ranges of integers

The powers that binary words and decimals are made of, and the integers that a word of a given width
can hold, with a sign or without.
-/

set_option autoImplicit false

namespace DeclScribe

namespace Number

def twoPow (n : Nat) : Nat := Nat.pow 2 n

def tenPow (n : Nat) : Nat := Nat.pow 10 n

end Number

/-- A range of integers, both ends included. -/
structure IntRange where
  least : Int
  greatest : Int
deriving Repr, DecidableEq, Inhabited

namespace IntRange

/-- The integers that a signed word of some bits holds. -/
def signed (bits : Nat) : IntRange :=
  let half : Int := Number.twoPow (bits - 1)
  ⟨-half, half - 1⟩

/-- The integers that an unsigned word of some bits holds. -/
def unsigned (bits : Nat) : IntRange :=
  ⟨0, (Number.twoPow bits : Int) - 1⟩

def holds (range : IntRange) (value : Int) : Bool :=
  range.least ≤ value && value ≤ range.greatest

theorem holds_iff {range : IntRange} {value : Int} :
    range.holds value = true ↔ range.least ≤ value ∧ value ≤ range.greatest := by
  simp [holds]

end IntRange

end DeclScribe
