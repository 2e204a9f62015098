import ChatServer.Number.Binary64

/-!
# The shortest decimal form

The decimal form of a floating-point number with the fewest digits that read
back as it, the nearest of those where there are two. Between 0.00001 and 10^16
it is written with a point and at least one digit on each side of it, elsewhere
with an exponent.

* `shortest` tries 1 to 17 digits; 17 always suffice.
-/
namespace ChatServer.Number

/-- A decimal number: digits times ten to the exponent. -/
structure Decimal where
  digits : Nat
  exponent : Int
deriving DecidableEq

def Decimal.ratio (d : Decimal) : Nat × Nat :=
  if 0 ≤ d.exponent then (d.digits * Nat.pow 10 d.exponent.toNat, 1)
  else (d.digits, Nat.pow 10 (-d.exponent).toNat)

/-- Drops final zeros of the digits, at most `limit` of them. -/
def Decimal.trimZeros : Nat → Decimal → Decimal
  | 0, d => d
  | limit + 1, d =>
    if d.digits ≠ 0 ∧ d.digits % 10 = 0 then trimZeros limit ⟨d.digits / 10, d.exponent + 1⟩ else d

/-- No positive number is below ten to the minus this. -/
def smallestPlace : Nat := 400

/-- The exponent of the first decimal digit of a quotient above zero. -/
def leadingPlace (num den : Nat) : Int :=
  ((Nat.toDigits 10 (num * Nat.pow 10 smallestPlace / den)).length : Int) - 1 - smallestPlace

/-- The nearest decimal with `count` digits that reads back as `x`, if there is
one. -/
def withDigits? (x : Binary64) (count : Nat) : Option Decimal :=
  let (num, den) := x.ratio
  let place := leadingPlace num den - (count : Int) + 1
  let (n, d) :=
    if 0 ≤ place then (num, den * Nat.pow 10 place.toNat)
      else (num * Nat.pow 10 (-place).toNat, den)
  let low := n / d
  let readsBack (digits : Nat) : Bool :=
    let (a, b) := Decimal.ratio ⟨digits, place⟩
    nearest? a b == some (x.mantissa, x.exponent)
  let first := if divNearest n d = low then low else low + 1
  let second := if divNearest n d = low then low + 1 else low
  if readsBack first then some ⟨first, place⟩
  else if readsBack second then some ⟨second, place⟩
  else none

/-- The fewest digits that read back as a number above zero. -/
def shortest (x : Binary64) : Decimal :=
  (((List.range 17).findSome? fun i => withDigits? x (i + 1)).getD ⟨0, 0⟩).trimZeros 20

/-- Where the form with an exponent begins. -/
structure Layout where
  /-- The most digits in front of the point. -/
  mostWhole : Nat
  /-- The most zeros between the point and the first digit. -/
  mostZeros : Nat

/-- Up to 16 digits before the point and up to four zeros after it. -/
def layout : Layout := ⟨16, 4⟩

/-- The digits of a decimal number set out with a point. -/
def Decimal.chars (d : Decimal) : List Char :=
  let ds := Nat.toDigits 10 d.digits
  let whole : Int := (ds.length : Int) + d.exponent
  if 0 < whole ∧ whole ≤ layout.mostWhole then
    let n := whole.toNat
    if ds.length ≤ n then ds ++ List.replicate (n - ds.length) '0' ++ ['.', '0']
    else ds.take n ++ '.' :: ds.drop n
  else if whole ≤ 0 ∧ -(layout.mostZeros : Int) ≤ whole then
    '0' :: '.' :: List.replicate (-whole).toNat '0' ++ ds
  else
    let fraction := if ds.length ≤ 1 then [] else '.' :: ds.drop 1
    let power := whole - 1
    ds.take 1 ++ fraction ++ 'e' :: (if power < 0 then '-' else '+') :: Nat.toDigits 10 power.natAbs

/-- The shortest decimal form of a number. -/
def Binary64.text (x : Binary64) : String :=
  let chars := if x.mantissa = 0 then ['0', '.', '0'] else (shortest x).chars
  String.ofList (if x.negative then '-' :: chars else chars)

end ChatServer.Number

