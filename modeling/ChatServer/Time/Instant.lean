import ChatServer.Time.Calendar

/-!
# Instants

A moment in UTC to the nanosecond. A leap second is the second `:60` of a
minute; it is kept as the 59th second with a thousand million nanoseconds or
more, so it comes after every other moment of `:59` and before the next minute.

* `cmp_eq_iff`: two instants compare equal exactly when they are the same.
* `ofLocal?`: a wall-clock reading at an offset from UTC, moved to UTC.
-/
namespace ChatServer.Time

def daySeconds : Nat := 86400

def secondNanos : Nat := 1000000000

/-- A moment in UTC. -/
structure Instant where
  date : Date
  second : Nat
  nano : Nat
  second_lt : second < daySeconds
  nano_lt : nano < 2 * secondNanos
  leap : secondNanos ≤ nano → second % 60 = 59
deriving DecidableEq

namespace Instant

def cmp (a b : Instant) : Ordering :=
  (a.date.cmp b.date).then ((compare a.second b.second).then (compare a.nano b.nano))

/-- Whole seconds since the start of 1970; a leap second counts as the second
before it. -/
def unixSeconds (t : Instant) : Int := t.date.epochDay * (daySeconds : Int) + (t.second : Int)

/-- The UTC year can be written with four digits. -/
def hasFourDigitYear (t : Instant) : Bool := 0 ≤ t.date.year && t.date.year ≤ 9999

/-- The instant that a clock ahead of UTC by `offset` seconds shows as this
date, second of the day and nanosecond. There is none when the date in UTC is
out of range. The offset is less than a day and a multiple of a minute, so a
leap second stays one. -/
def ofLocal? (date : Date) (second nano : Nat) (offset : Int) : Option Instant := do
  let utc := (second : Int) - offset
  let date ←
    if utc < 0 then date.pred?
    else if (daySeconds : Int) ≤ utc then date.succ?
    else some date
  let second := (utc % (daySeconds : Int)).toNat
  if h : second < daySeconds ∧ nano < 2 * secondNanos ∧ (secondNanos ≤ nano → second % 60 = 59) then
    some ⟨date, second, nano, h.1, h.2.1, h.2.2⟩
  else none

def firstSecond : Int :=
  Date.epochDay ⟨minYear, 1, 1, by decide, by decide, by decide⟩ * (daySeconds : Int)

def lastSecond : Int :=
  Date.epochDay ⟨maxYear, 12, 31, by decide, by decide, by decide⟩ * (daySeconds : Int) +
    (daySeconds : Int) - 1

/-- The whole seconds since 1970 of the moment some seconds later; none when it
cannot be held. -/
def secondsAfter? (t : Instant) (seconds : Int) : Option Int :=
  let later := t.unixSeconds + seconds
  if firstSecond ≤ later ∧ later ≤ lastSecond then some later else none

theorem compare_then_eq_iff {a b : Ordering} : a.then b = .eq ↔ a = .eq ∧ b = .eq := by
  cases a <;> cases b <;> decide

theorem cmp_eq_iff {a b : Instant} : a.cmp b = .eq ↔ a = b := by
  obtain ⟨da, sa, na, _, _, _⟩ := a
  obtain ⟨db, sb, nb, _, _, _⟩ := b
  obtain ⟨ya, ma, ka, _, _, _⟩ := da
  obtain ⟨yb, mb, kb, _, _, _⟩ := db
  simp only [cmp, Date.cmp, compare_then_eq_iff, Instant.mk.injEq, Date.mk.injEq,
    Std.compare_eq_iff_eq]

theorem ofLocal?_utc (t : Instant) : ofLocal? t.date t.second t.nano 0 = some t := by
  have hs := t.second_lt
  have hlow : ¬ ((t.second : Int) - 0 < 0) := by omega
  have hhigh : ¬ ((daySeconds : Int) ≤ (t.second : Int) - 0) := by omega
  have hmod : (((t.second : Int) - 0) % (daySeconds : Int)).toNat = t.second := by
    rw [Int.sub_zero, Int.emod_eq_of_lt (by omega) (by omega)]; rfl
  simp only [ofLocal?, hlow, hhigh, if_false, hmod, Option.bind_eq_bind, Option.bind_some]
  rw [dif_pos ⟨hs, t.nano_lt, t.leap⟩]

end Instant
end ChatServer.Time

