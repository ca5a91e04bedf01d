import TokenPattern.Word

/-!
# Binary floating-point numbers as data

A number with a fractional part arrives in a document as a 64-bit binary floating-point number.
`Binary64` keeps its bit pattern, so that equality is equality of data and a negative zero stays
distinct.  A finite pattern denotes `± significand · 2 ^ exponent`.

Two ways of reading a decimal number occur: `ofDecimal` gives the nearest binary number, and
`ofScaled` rounds the digits first and then multiplies or divides once by a power of ten.
-/

namespace TokenPattern

/-- A binary floating-point number, by its bit pattern: one sign bit, eleven bits of exponent and
fifty-two bits of fraction. -/
structure Binary64 where
  bits : UInt64
deriving DecidableEq, Inhabited

namespace Binary64

/-! ## Parts of the pattern -/

/-- The number of fractions: two to the power of 52. -/
def fractionLimit : Nat := 0x10000000000000

/-- The sign bit. -/
def negative (x : Binary64) : Bool := x.bits.toNat ≥ Word.signedLimit

/-- The biased exponent. -/
def biasedExponent (x : Binary64) : Nat := x.bits.toNat / fractionLimit % 0x800

/-- The fraction bits. -/
def fraction (x : Binary64) : Nat := x.bits.toNat % fractionLimit

/-- Neither an infinity nor a NaN. -/
def isFinite (x : Binary64) : Bool := x.biasedExponent < 2047

/-- The integer that a power of two scales to the magnitude of a finite number. -/
def significand (x : Binary64) : Nat :=
  if x.biasedExponent = 0 then x.fraction else x.fraction + fractionLimit

/-- The power of two that scales `significand`. -/
def exponent (x : Binary64) : Int :=
  if x.biasedExponent = 0 then -1074 else x.biasedExponent - 1075

/-- Whether the next smaller magnitude is only half as far away as the next larger one. -/
def lowerGapIsHalf (x : Binary64) : Bool := x.fraction = 0 && 1 < x.biasedExponent

/-! ## Reading -/

/-- The pattern of a machine number. -/
def ofFloat (x : Float) : Binary64 := ⟨x.toBits⟩

/-- The machine number with a pattern. -/
def toFloat (x : Binary64) : Float := Float.ofBits x.bits

/-- The other sign. -/
def neg (x : Binary64) : Binary64 := ofFloat (-x.toFloat)

/-- Zero. -/
def zero : Binary64 := ⟨0⟩

/-- The binary number nearest to `significand · 10 ^ exponent`. -/
def ofDecimal (significand : Nat) (exponent : Int) : Binary64 :=
  ofFloat (if exponent < 0 then Float.ofScientific significand true exponent.natAbs
    else Float.ofScientific significand false exponent.natAbs)

/-- A power of ten as a machine number. -/
def powerOfTen (n : Nat) : Float := Float.ofScientific 1 false n

/-- Reads `significand · 10 ^ exponent` by rounding the significand and then scaling it once, or
twice below `10 ^ -308`.  There is no result where a machine number would overflow. -/
def ofScaled (significand : Nat) (exponent : Int) : Option Binary64 :=
  let x := (UInt64.ofNat significand).toFloat
  if 0 ≤ exponent then
    if exponent ≤ 308 then
      let y := ofFloat (x * powerOfTen exponent.natAbs)
      if y.isFinite then some y else none
    else if significand = 0 then some zero else none
  else if -308 ≤ exponent then some (ofFloat (x / powerOfTen exponent.natAbs))
  else if -616 ≤ exponent then
    some (ofFloat (x / powerOfTen 308 / powerOfTen (exponent.natAbs - 308)))
  else some zero

end Binary64

end TokenPattern
