/-!
# Rounding to binary64

The binary64 number nearest to a quotient of natural numbers, in exact arithmetic. A binary64
number has 53 significant binary digits, none of them beyond the 1074th binary place; of two
numbers equally near, the one whose last digit is even is taken.
-/

namespace ProxyPolicy.Time

/-- A number with finitely many binary places: `numerator / 2 ^ places`. -/
structure Dyadic where
  /-- The number times `2 ^ places`. -/
  numerator : Nat
  /-- The number of binary places. -/
  places : Nat
  deriving DecidableEq, Repr

/-- The whole part of a number. -/
def Dyadic.floor (d : Dyadic) : Nat := d.numerator / Nat.pow 2 d.places

/-- A number less its whole part. -/
def Dyadic.fract (d : Dyadic) : Dyadic := ⟨d.numerator % Nat.pow 2 d.places, d.places⟩

/-- The whole number nearest to a quotient, the even one if two are equally near. -/
def roundDiv (num den : Nat) : Nat :=
  let q := num / den
  let r := num % den
  if 2 * r < den then q
  else if den < 2 * r then q + 1
  else if q % 2 = 0 then q else q + 1

/-- The number of times a quotient must be doubled before it is at least one. -/
def doublings (num den : Nat) : Nat :=
  let s := den.log2 - num.log2
  if den ≤ num * Nat.pow 2 s then s else s + 1

/-- The number of binary places that the binary64 numbers near a quotient below `2 ^ 53` have. -/
def binaryPlaces (num den : Nat) : Nat :=
  min 1074 (if den ≤ num then 52 - (num / den).log2 else 52 + doublings num den)

/-- The binary64 number nearest to `num / den`, without a bound on its size. -/
def toBinary64 (num den : Nat) : Dyadic :=
  if den * Nat.pow 2 53 ≤ num then
    let shift := (num / den).log2 - 52
    ⟨roundDiv num (den * Nat.pow 2 shift) * Nat.pow 2 shift, 0⟩
  else
    let places := binaryPlaces num den
    ⟨roundDiv (num * Nat.pow 2 places) den, places⟩

end ProxyPolicy.Time
