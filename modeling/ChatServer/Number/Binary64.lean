/-!
# Binary floating point

Numbers of 64-bit binary floating point as a sign, a mantissa below 2^53 and a
power of two, with the arithmetic that reading decimal numbers needs. Every
operation is the exact result rounded to the nearest number, a tie to the even
mantissa.
-/
namespace ChatServer.Number

/-- A finite number: mantissa times two to the exponent, with a sign. -/
structure Binary64 where
  negative : Bool
  mantissa : Nat
  exponent : Int
deriving DecidableEq

/-- The quotient rounded to the nearest whole number, a tie to the even one. -/
def divNearest (num den : Nat) : Nat :=
  let q := num / den
  let r := num % den
  if 2 * r < den then q
  else if den < 2 * r then q + 1
  else if q % 2 = 0 then q else q + 1

def leastExponent : Int := -1074

def greatestExponent : Int := 971

/-- The quotient over two to the exponent, as a numerator and a denominator. -/
def scaled (num den : Nat) (exponent : Int) : Nat × Nat :=
  if 0 ≤ exponent then (num, den <<< exponent.toNat) else (num <<< (-exponent).toNat, den)

/-- The exponent at which the quotient has 53 binary digits, or the least
one. -/
def quotientExponent (num den : Nat) : Int :=
  let guess : Int := (Nat.log2 num : Int) - (Nat.log2 den : Int) - 52
  let (n, d) := scaled num den guess
  max (if n / d < 1 <<< 52 then guess - 1 else guess) leastExponent

/-- The number nearest to a quotient, as mantissa and exponent; `none` when it
is too large. -/
def nearest? (num den : Nat) : Option (Nat × Int) :=
  if num = 0 then some (0, leastExponent)
  else
    let e := quotientExponent num den
    let (n, d) := scaled num den e
    let m := divNearest n d
    let (m, e) := if m = 1 <<< 53 then (1 <<< 52, e + 1) else (m, e)
    if greatestExponent < e then none else some (m, e)

namespace Binary64

def zero (negative : Bool) : Binary64 := ⟨negative, 0, leastExponent⟩

def ratio (x : Binary64) : Nat × Nat :=
  if 0 ≤ x.exponent then (x.mantissa <<< x.exponent.toNat, 1)
  else (x.mantissa, 1 <<< (-x.exponent).toNat)

/-- The positive number nearest to a quotient. -/
def ofRatio? (num den : Nat) : Option Binary64 :=
  (nearest? num den).map fun (m, e) => ⟨false, m, e⟩

/-- The product of two positive numbers; `none` when it is too large. -/
def mul? (x y : Binary64) : Option Binary64 :=
  ofRatio? (x.ratio.1 * y.ratio.1) (x.ratio.2 * y.ratio.2)

/-- The quotient of two positive numbers, the second not zero; `none` when it is
too large. -/
def div? (x y : Binary64) : Option Binary64 :=
  ofRatio? (x.ratio.1 * y.ratio.2) (x.ratio.2 * y.ratio.1)

end Binary64

end ChatServer.Number

