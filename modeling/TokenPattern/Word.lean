/-!
# Words of 64 bits

Counts and integers in documents are bounded by what fits into a word, unsigned or signed.  The
numbers themselves stay unbounded; this module holds the bounds.
-/

namespace TokenPattern.Word

/-- The number of words: two to the power of 64. -/
def limit : Nat := 0x10000000000000000

/-- The number of words without the sign bit: two to the power of 63. -/
def signedLimit : Nat := 0x8000000000000000

/-- Whether a number fits into a word. -/
def fits (n : Nat) : Bool := n < limit

/-- Whether an integer fits into an unsigned word. -/
def fitsUnsigned (n : Int) : Bool := 0 ≤ n && n < (limit : Int)

/-- Whether an integer fits into a signed word. -/
def fitsSigned (n : Int) : Bool := -(signedLimit : Int) ≤ n && n < (signedLimit : Int)

/-- A number as a signed word, higher bits dropped. -/
def signed (n : Nat) : Int := Int.bmod n limit

/-- A number that fits into a signed word is the word itself. -/
theorem signed_eq {n : Nat} (h : n < signedLimit) : signed n = n := by
  rw [signedLimit] at h
  have hlower : -((limit : Int) / 2) ≤ n := by
    simp only [limit]
    omega
  have hupper : (n : Int) < ((limit : Int) + 1) / 2 := by
    simp only [limit]
    omega
  exact Int.bmod_eq_of_le hlower hupper

end TokenPattern.Word
