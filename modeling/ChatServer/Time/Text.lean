import ChatServer.Text.Digits
import ChatServer.Time.Instant

/-!
# How instants are written

Two forms, both in UTC and ending in `Z`. The *stored* form always has nine
fraction digits, so that within the years 0000 to 9999 it has one width and its
text order is the order of the instants. The *short* form has 0, 3, 6 or 9
fraction digits, the fewest that are exact.

* `length_storedChars`: within four-digit years the stored form is 30 characters
  wide.
-/
namespace ChatServer.Time

open ChatServer.Text

/-- A year of four digits, or a sign and at least four digits outside 0000 to
9999. -/
def yearChars (year : Int) : List Char :=
  if 0 ≤ year ∧ year ≤ 9999 then padded 4 year.natAbs
  else (if year < 0 then '-' else '+') :: paddedAtLeast 4 year.natAbs

def Date.chars (d : Date) : List Char :=
  yearChars d.year ++ '-' :: padded 2 d.month ++ '-' :: padded 2 d.day

namespace Instant

/-- The number shown in the seconds place: 60 in a leap second. -/
def shownSecond (t : Instant) : Nat := t.second % 60 + t.nano / secondNanos

/-- Date and time of day to the second. -/
def secondChars (t : Instant) : List Char :=
  t.date.chars ++ 'T' :: padded 2 (t.second / 3600) ++ ':' :: padded 2 (t.second / 60 % 60) ++
    ':' :: padded 2 t.shownSecond

/-- The fewest of 0, 3, 6 and 9 fraction digits that are exact, with the point
before them. -/
def fractionChars (nano : Nat) : List Char :=
  if nano = 0 then []
  else if nano % 1000000 = 0 then '.' :: padded 3 (nano / 1000000)
  else if nano % 1000 = 0 then '.' :: padded 6 (nano / 1000)
  else '.' :: padded 9 nano

/-- The stored form: nine fraction digits. -/
def storedChars (t : Instant) : List Char :=
  t.secondChars ++ '.' :: padded 9 (t.nano % secondNanos) ++ ['Z']

def shortChars (t : Instant) : List Char :=
  t.secondChars ++ fractionChars (t.nano % secondNanos) ++ ['Z']

def stored (t : Instant) : String := String.ofList t.storedChars

def short (t : Instant) : String := String.ofList t.shortChars

theorem length_storedChars {t : Instant} (h : t.hasFourDigitYear = true) :
    t.storedChars.length = 30 := by
  simp only [hasFourDigitYear, Bool.and_eq_true, decide_eq_true_eq] at h
  simp [storedChars, secondChars, Date.chars, yearChars, h]

end Instant
end ChatServer.Time

