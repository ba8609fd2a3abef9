import VaultLocator.Json.Double

/-!
# The shortest decimal of a double

Every real number that lies closer to a double than to its neighbours is read back as that double.
`VaultLocator.Double.shortest` writes a double with the fewest significant digits that fall into
this interval, and of the candidates with that many digits takes the one nearest to the value. All
of it is arithmetic on naturals: for one power of ten after the other, from the leading digit of
the value downwards, the value is put between two neighbouring multiples of the power, and the
first power for which one of the two falls into the interval decides.
-/

namespace VaultLocator

/-- A positive decimal: its significant digits, the last of them not zero, and the place of the
point, so that the value is `0.digits · 10 ^ point`. -/
structure Decimal where
  digits : List Char
  point : Int

/-- The decimal `count · 10 ^ place`. -/
def Decimal.ofMultiple (count : Nat) (place : Int) : Decimal :=
  let digits := Nat.toDigits 10 count
  ⟨(digits.reverse.dropWhile (· == '0')).reverse, digits.length + place⟩

namespace Double

/-- The real numbers that are read back as a given double, between `low` and `high` in units of
`num / den` about `value`; the ends belong to them if `closed`. -/
structure Interval where
  low : Nat
  value : Nat
  high : Nat
  closed : Bool

/-- The interval of a double in quarters of its last place. Below a power of two the neighbour is
half as far away, and the ends belong to the interval if the significand is even. -/
def interval (d : Double) : Interval :=
  let m := d.significand
  ⟨if m = binade ∧ 1 < d.storedExponent then 4 * m - 1 else 4 * m - 2, 4 * m, 4 * m + 2,
    m % 2 == 0⟩

/-- Whether `count` multiples of a power of ten lie in an interval whose unit is `num / den` of
that power. -/
def Interval.holds (i : Interval) (num den count : Nat) : Bool :=
  if i.closed then
    decide (i.low * num ≤ count * den) && decide (count * den ≤ i.high * num)
  else
    decide (i.low * num < count * den) && decide (count * den < i.high * num)

/-- The multiple of a power of ten that lies in an interval and is nearest to its value, if one
does: one of the two neighbours of the value, and of two equally near the even one. -/
def Interval.pick? (i : Interval) (num den : Nat) : Option Nat :=
  let count := i.value * num / den
  let rest := i.value * num % den
  match i.holds num den count, i.holds num den (count + 1) with
  | true, true =>
    if 2 * rest < den ∨ (2 * rest = den ∧ count % 2 = 0) then some count else some (count + 1)
  | true, false => some count
  | false, true => some (count + 1)
  | false, false => none

/-- The quotient of `2 ^ e` and `10 ^ place`. -/
def unitRatio (e place : Int) : Nat × Nat :=
  (Nat.pow 2 e.toNat * Nat.pow 10 (-place).toNat, Nat.pow 2 (-e).toNat * Nat.pow 10 place.toNat)

/-- Tries the powers of ten from `place` downwards, as many as `steps` says. Powers above the
value are passed over. -/
def search (i : Interval) (e : Int) : Nat → Int → Option Decimal
  | 0, _ => none
  | steps + 1, place =>
    let unit := unitRatio e place
    if i.value * unit.1 < unit.2 then
      search i e steps (place - 1)
    else
      match i.pick? unit.1 unit.2 with
      | some count => some (Decimal.ofMultiple count place)
      | none => search i e steps (place - 1)

/-- A power of ten that is not below the leading digit of the double, and at most two above. -/
def leadingPlace (d : Double) : Int :=
  (((d.significand.log2 : Int) + d.exponent + 1) * 30103).fdiv 100000 + 1

/-- **The shortest decimal of a positive double.** Seventeen digits always suffice, and the search
starts at most two places above the first of them. -/
def shortest (d : Double) : Decimal :=
  (search d.interval (d.exponent - 2) 20 d.leadingPlace).getD ⟨['0'], 0⟩

end Double

end VaultLocator
