import ChatServer.Text.Blank
import ChatServer.Text.Digits
import ChatServer.Text.Utf8
import ChatServer.Time.Instant

/-!
# Pieces of time texts

What the readers of time texts have in common: the causes of failure, numbers
with a limit on their digits, single marks, fractions of a second and offsets
from UTC. Each reader takes the text as a list of characters and gives its value
with what follows it.
-/
namespace ChatServer.Time

open ChatServer.Text

inductive Fault
  /-- A character that cannot stand at its place. -/
  | invalid
  /-- The text ends before the time is complete. -/
  | tooShort
  /-- A field is outside its range, or the date does not exist. -/
  | outOfRange
  /-- Text follows the time. -/
  | trailing
  /-- The moment in UTC is outside the years that can be held. -/
  | impossible
deriving DecidableEq

def Fault.message : Fault → String
  | .invalid => "input contains invalid characters"
  | .tooShort => "premature end of input"
  | .outOfRange => "input is out of range"
  | .trailing => "trailing input"
  | .impossible => "no possible date and time matching input"

/-- A number of at least `least` and at most `most` digits. A text of fewer
bytes than the least count is too short, whatever its characters. -/
def number (least most : Nat) (cs : List Char) : Except Fault (Nat × List Char) :=
  let (ds, rest) := spanDigits most cs
  if least ≤ ds.length then .ok (digitsValue ds, rest)
  else if Utf8.byteLength cs < least then .error .tooShort
  else .error .invalid

def numberIn (least most low high : Nat) (cs : List Char) : Except Fault (Nat × List Char) := do
  let (n, rest) ← number least most cs
  if low ≤ n ∧ n ≤ high then .ok (n, rest) else .error .outOfRange

def mark (m : Char) : List Char → Except Fault (List Char)
  | [] => .error .tooShort
  | c :: rest => if c = m then .ok rest else .error .invalid

/-- What stands between date and time: the letter T in either case, or a
space. -/
def separator : List Char → Except Fault (List Char)
  | [] => .error .tooShort
  | c :: rest => if c = 'T' ∨ c = 't' ∨ c = ' ' then .ok rest else .error .invalid

/-- Nanoseconds after a point, zero without one. Digits after the ninth are
dropped. -/
def fraction : List Char → Except Fault (Nat × List Char)
  | '.' :: cs => do
    let (ds, rest) := spanDigits 9 cs
    if ds.isEmpty then .error (if cs.isEmpty then .tooShort else .invalid)
    else .ok (digitsValue ds * Nat.pow 10 (9 - ds.length), rest.dropWhile Char.isDigit)
  | cs => .ok (0, cs)

/-- Two digits that come one after the other. A text that ends before the second
is too short, where a character above ASCII counts as two. -/
def twoDigits : List Char → Except Fault (Nat × List Char)
  | [] => .error .tooShort
  | [c] => if c.utf8Size < 2 then .error .tooShort else .error .invalid
  | a :: b :: rest =>
    if a.isDigit && b.isDigit then .ok (digitsValue [a, b], rest) else .error .invalid

/-- Minus signs: ASCII and the mathematical one. -/
def isMinus (c : Char) : Bool := c == '-' || c == '\u2212'

/-- An offset from UTC in seconds: `Z`, or a sign, hours and minutes. What
stands between hours and minutes is for `between` to read. -/
def offsetFromUtc (between : List Char → Except Fault (List Char)) :
    List Char → Except Fault (Int × List Char)
  | [] => .error .tooShort
  | c :: cs =>
    if c = 'Z' ∨ c = 'z' then .ok (0, cs)
    else if c = '+' || isMinus c then do
      let (hours, rest) ← twoDigits cs
      let (minutes, rest) ← twoDigits (← between rest)
      if 60 ≤ minutes then .error .outOfRange
      else
        let seconds : Int := (hours * 3600 + minutes * 60 : Nat)
        .ok (if c = '+' then seconds else -seconds, rest)
    else .error .invalid

/-- The moment shown by these fields at an offset. Second 60 is the leap second
of its minute. -/
def moment (year : Int) (month day hour minute second nano : Nat) (offset : Int) :
    Except Fault Instant :=
  match Date.ofParts? year month day with
  | none => .error .outOfRange
  | some date =>
    if offset ≤ -(daySeconds : Int) ∨ (daySeconds : Int) ≤ offset then .error .outOfRange
    else
      let leap := second = 60
      let shown := hour * 3600 + minute * 60 + if leap then 59 else second
      match Instant.ofLocal? date shown (if leap then secondNanos + nano else nano) offset with
      | none => .error .impossible
      | some t => .ok t

end ChatServer.Time

