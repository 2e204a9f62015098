import ChatServer.Text.Digits

/-!
# Whole numbers in settings and queries

A whole number is a run of decimal digits, with a plus sign allowed before it,
and a minus sign where negative numbers are. It is read from the left, and the
first fault counts: a character that is no digit, or a digit that leads out of
the range.
-/
namespace ChatServer.Text.Integer

structure Range where
  low : Int
  high : Int

/-- The numbers of a word of some bits without a sign. -/
def Range.unsigned (bits : Nat) : Range := ⟨0, (1 <<< bits : Nat) - 1⟩

/-- The numbers of a word of some bits with a sign. -/
def Range.signed (bits : Nat) : Range := ⟨-(1 <<< (bits - 1) : Nat), (1 <<< (bits - 1) : Nat) - 1⟩

inductive Fault
  | empty
  | invalidDigit
  | tooLarge
  | tooSmall
deriving DecidableEq

def Fault.message : Fault → String
  | empty => "cannot parse integer from empty string"
  | invalidDigit => "invalid digit found in string"
  | tooLarge => "number too large to fit in target type"
  | tooSmall => "number too small to fit in target type"

/-- A number with one more digit, counted upwards or downwards. -/
def grow (negative : Bool) (n : Int) (digit : Nat) : Int :=
  if negative then n * 10 - digit else n * 10 + digit

/-- Reads digits onto a number, upwards or downwards. -/
def readDigits (r : Range) (negative : Bool) : Int → List Char → Except Fault Int
  | n, [] => .ok n
  | n, c :: cs =>
    if !c.isDigit then .error .invalidDigit
    else if grow negative n (digitsValue [c]) < r.low then .error .tooSmall
    else if r.high < grow negative n (digitsValue [c]) then .error .tooLarge
    else readDigits r negative (grow negative n (digitsValue [c])) cs

/-- Reads a number of a range. -/
def read (r : Range) (cs : List Char) : Except Fault Int :=
  match cs with
  | [] => .error .empty
  | c :: rest =>
    let signed := c = '+' ∨ (c = '-' ∧ r.low < 0)
    if signed then
      if rest.isEmpty then .error .invalidDigit else readDigits r (c = '-') 0 rest
    else readDigits r false 0 (c :: rest)

end ChatServer.Text.Integer

