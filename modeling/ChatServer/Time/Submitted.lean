import ChatServer.Time.Reading

/-!
# Reading submitted times

The lenient grammar of times that clients send: blanks may stand around every
field, fields may be shorter, the year may have a sign and any number of digits,
the offset may be the word `UTC`, and blanks and colons may stand between its
hours and minutes.
-/
namespace ChatServer.Time

open ChatServer.Text

/-- The largest year that is read at all; larger numbers are out of range before
anything follows. -/
def yearLimit : Nat := 2147483647

/-- A signed year of any length, or up to four digits without a sign. -/
def readYear : List Char → Except Fault (Int × List Char)
  | '-' :: cs => do
    let (n, rest) ← number 1 cs.length.succ cs
    if n ≤ yearLimit + 1 then .ok (-(n : Int), rest) else .error .outOfRange
  | '+' :: cs => do
    let (n, rest) ← number 1 cs.length.succ cs
    if n ≤ yearLimit then .ok ((n : Int), rest) else .error .outOfRange
  | cs => do
    let (n, rest) ← number 1 4 cs
    .ok ((n : Int), rest)

/-- Any run of colons and blanks. -/
def colonsAndBlanks (cs : List Char) : Except Fault (List Char) :=
  .ok (cs.dropWhile fun c => c == ':' || isBlank c)

/-- The word `UTC` in any case, or an offset. -/
def readZone (cs : List Char) : Except Fault (Int × List Char) :=
  if (cs.take 3).map Char.toUpper = ['U', 'T', 'C'] then .ok (0, cs.drop 3)
  else offsetFromUtc colonsAndBlanks cs

/-- The reading of the lenient grammar. -/
def readSubmitted (cs : List Char) : Except Fault Instant := do
  let (year, cs) ← readYear (trimStart cs)
  let cs ← mark '-' (trimStart cs)
  let (month, cs) ← numberIn 1 2 1 12 (trimStart cs)
  let cs ← mark '-' (trimStart cs)
  let (day, cs) ← numberIn 1 2 1 31 (trimStart cs)
  let cs ← separator cs
  let (hour, cs) ← numberIn 1 2 0 23 (trimStart cs)
  let cs ← mark ':' (trimStart cs)
  let (minute, cs) ← numberIn 1 2 0 59 (trimStart cs)
  let cs ← mark ':' (trimStart cs)
  let (second, cs) ← numberIn 1 2 0 60 (trimStart cs)
  let (nano, cs) ← fraction cs
  let (offset, cs) ← readZone (trimStart cs)
  if (trimStart cs).isEmpty then moment year month day hour minute second nano offset
  else .error .trailing

/-- The instant that a submitted time denotes. -/
def Instant.parse (s : String) : Except Fault Instant := readSubmitted s.toList

end ChatServer.Time

