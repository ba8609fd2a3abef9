/-!
# Doubles

A double is kept as its 64 bits, so that the two zeros differ and equality is decidable, and its
value is read off them by integer arithmetic: a sign and a magnitude `significand · 2 ^ exponent`.

`VaultLocator.Double.nearest?` goes the other way, from an exact quotient to the nearest double, a
tie going to the even significand. Reading a decimal numeral, `VaultLocator.Double.ofDecimal?`,
rounds the significand first and then scales it by one rounded power of ten at a time; this is at
most one unit in the last place away from the nearest double, and exact wherever significand and
power are.
-/

namespace VaultLocator

/-- A double, as its 64 bits. The codes of the infinities and of the values that are no number are
never produced here. -/
structure Double where
  bits : UInt64
  deriving DecidableEq

namespace Double

/-! ### The value of a double -/

/-- How many doubles share one stored exponent, and one sign: `2 ^ 52`. -/
def binade : Nat :=
  Nat.pow 2 52

/-- Whether the sign bit is set; it is for the negative zero. -/
def isNegative (d : Double) : Bool :=
  decide (Nat.pow 2 63 ≤ d.bits.toNat)

/-- The stored exponent, zero for the subnormal doubles. -/
def storedExponent (d : Double) : Nat :=
  d.bits.toNat / binade % 2048

/-- The integer whose multiple by a power of two is the magnitude. -/
def significand (d : Double) : Nat :=
  if d.storedExponent = 0 then d.bits.toNat % binade else d.bits.toNat % binade + binade

/-- The power of two that scales the significand. -/
def exponent (d : Double) : Int :=
  if d.storedExponent = 0 then -1074 else (d.storedExponent : Int) - 1075

/-- A quotient divided by a power of two, as a quotient. -/
def downscale (num den : Nat) (e : Int) : Nat × Nat :=
  if 0 ≤ e then (num, den * Nat.pow 2 e.toNat) else (num * Nat.pow 2 (-e).toNat, den)

/-- The magnitude of a double, as a quotient. -/
def ratio (d : Double) : Nat × Nat :=
  downscale d.significand 1 (-d.exponent)

/-- The integer part of the magnitude: the value with its fraction and its sign dropped. -/
def truncated (d : Double) : Nat :=
  d.ratio.1 / d.ratio.2

/-! ### Rounding -/

/-- The integer nearest to a quotient; a half goes to the even neighbour. -/
def roundHalfEven (num den : Nat) : Nat :=
  if 2 * (num % den) < den ∨ (2 * (num % den) = den ∧ num / den % 2 = 0) then
    num / den
  else
    num / den + 1

/-- The exponent that the nearest double to a positive quotient has before rounding: the one at
which the quotient lies between `2 ^ 52` and `2 ^ 53`, but not below that of the subnormals. -/
def placeOf (num den : Nat) : Int :=
  let e : Int := (num.log2 : Int) - den.log2
  let below := downscale num den e
  max (-1074) ((if below.1 < below.2 then e - 1 else e) - 52)

/-- The non-negative double nearest to a quotient, a tie going to the even significand; nothing if
it is too large for a double. -/
def nearest? (num den : Nat) : Option Double :=
  if num = 0 then
    some ⟨0⟩
  else
    let e := placeOf num den
    let scaled := downscale num den e
    let m := roundHalfEven scaled.1 scaled.2
    let code := if m < binade then m else (e + 1075).toNat * binade + (m - binade)
    if code < 2047 * binade then some ⟨UInt64.ofNat code⟩ else none

/-- The double with the opposite sign. -/
def negate (d : Double) : Double :=
  ⟨d.bits ^^^ 0x8000000000000000⟩

/-! ### Decimal numerals -/

/-- The rounded product of two magnitudes. -/
def times? (a b : Double) : Option Double :=
  nearest? (a.ratio.1 * b.ratio.1) (a.ratio.2 * b.ratio.2)

/-- The rounded quotient of two magnitudes. -/
def over? (a b : Double) : Option Double :=
  nearest? (a.ratio.1 * b.ratio.2) (a.ratio.2 * b.ratio.1)

/-- The double nearest to a power of ten. -/
def tenPow? (k : Nat) : Option Double :=
  nearest? (Nat.pow 10 k) 1

/-- A magnitude scaled by a power of ten. Powers beyond the range of the doubles are applied in
steps of `10 ^ 308` when they shrink the magnitude, and are too large when they enlarge it. -/
def scaleTen? (d : Double) (e : Int) : Option Double :=
  if d.significand = 0 then
    some d
  else if e < -308 then
    (tenPow? 308).bind fun ten => (over? d ten).bind fun smaller => scaleTen? smaller (e + 308)
  else if e < 0 then
    (tenPow? (-e).toNat).bind (over? d)
  else if e ≤ 308 then
    (tenPow? e.toNat).bind (times? d)
  else
    none
termination_by (-e).toNat

/-- The double that a decimal `significand · 10 ^ e` is read as. -/
def ofDecimal? (significand : Nat) (e : Int) : Option Double :=
  (nearest? significand 1).bind fun d => scaleTen? d e

end Double

end VaultLocator
