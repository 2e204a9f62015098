import ChatServer.Time.Reading

/-!
# Reading stored times

The strict grammar of time columns: `YYYY-MM-DD`, one of `T`, `t` and space,
`HH:MM:SS`, perhaps a point and digits, then `Z`, `z` or a sign and `HH:MM`, and
nothing else. Unlike the grammar of submitted times it allows no blanks and no
shorter fields. Date and time are judged as wholes, each once its last field has
been read, and an offset of a day or more only at the end of the text.
-/
namespace ChatServer.Time

/-- The count of bytes of a date and a time without an offset. -/
def shortestStored : Nat := 19

/-- A date that exists. -/
def storedDate (cs : List Char) : Except Fault ((Nat × Nat × Nat) × List Char) := do
  let (year, cs) ← number 4 4 cs
  let (month, cs) ← number 2 2 (← mark '-' cs)
  let (day, cs) ← number 2 2 (← mark '-' cs)
  if (Date.ofParts? year month day).isSome then .ok ((year, month, day), cs) else .error .outOfRange

def storedTime (cs : List Char) : Except Fault ((Nat × Nat × Nat × Nat) × List Char) := do
  let (hour, cs) ← number 2 2 cs
  let (minute, cs) ← number 2 2 (← mark ':' cs)
  let (second, cs) ← number 2 2 (← mark ':' cs)
  let (nano, cs) ← fraction cs
  if hour ≤ 23 ∧ minute ≤ 59 ∧ second ≤ 60 then .ok ((hour, minute, second, nano), cs)
  else .error .outOfRange

/-- The reading of the strict grammar. -/
def readStored (cs : List Char) : Except Fault Instant :=
  if Text.Utf8.byteLength cs < shortestStored then .error .tooShort
  else do
    let ((year, month, day), cs) ← storedDate cs
    let ((hour, minute, second, nano), cs) ← storedTime (← separator cs)
    let (offset, cs) ← offsetFromUtc (mark ':') cs
    if cs.isEmpty then moment year month day hour minute second nano offset else .error .trailing

/-- The instant that a time column holds. -/
def Instant.ofStored? (s : String) : Option Instant := (readStored s.toList).toOption

end ChatServer.Time

