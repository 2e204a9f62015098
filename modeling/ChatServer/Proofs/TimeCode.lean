import ChatServer.Proofs.JsonBytes
import ChatServer.Proofs.TimeOrder
import ChatServer.Store.Row
import Mathlib.Tactic.IntervalCases

/-!
# Stored times as a code

The store keeps a time as a text and lets the database compare texts byte by
byte. Within the years that can be stored this loses nothing: the bytes come in
the order of the moments, and each text is read as the moment that it was
written for. That a year has four digits is exactly what this takes, and it
shows in the length of the text.

The order of the fields of an instant is the order of time. Between two dates
this is calendar arithmetic: with years that start in March, each month and each
year is over before the next one begins, the leap day being the last of its
year.

* `cmp_eq_compare_unixSeconds`: the order of instants is that of seconds since
  1970, and of nanoseconds.
* `compare_encode_stored`: the order of the bytes of stored texts.
* `length_encode_stored_iff`, `readTime_stored_iff`: which texts have 30 bytes,
  and which are read back.
* `storedTime_code`: all of it.
-/
namespace ChatServer.Time

/-! ## The calendar -/

/-- February is a day longer in the years in which the count of leap days goes
up. -/
theorem daysInMonth_february (year : Int) : (daysInMonth year 2 : Int) =
    28 + (year / 4 - (year - 1) / 4) - (year / 100 - (year - 1) / 100) +
      (year / 400 - (year - 1) / 400) := by
  have h4 : year / 4 - (year - 1) / 4 = if year % 4 = 0 then 1 else 0 := by split <;> omega
  have h100 : year / 100 - (year - 1) / 100 = if year % 100 = 0 then 1 else 0 := by split <;> omega
  have h400 : year / 400 - (year - 1) / 400 = if year % 400 = 0 then 1 else 0 := by split <;> omega
  rw [h4, h100, h400]
  by_cases c4 : year % 4 = 0
  · by_cases c100 : year % 100 = 0
    · by_cases c400 : year % 400 = 0 <;> simp [daysInMonth, isLeapYear, c4, c100, c400]
    · have c400 : year % 400 ≠ 0 := by omega
      simp [daysInMonth, isLeapYear, c4, c100, c400]
  · have c100 : year % 100 ≠ 0 := by omega
    have c400 : year % 400 ≠ 0 := by omega
    simp [daysInMonth, isLeapYear, c4, c100, c400]

namespace Date

/-- The year of a date, where years start in March. -/
def marchYear (d : Date) : Int := if d.month ≤ 2 then d.year - 1 else d.year

/-- The months of a date's year that are over, where years start in March. -/
def marchMonth (d : Date) : Nat := if d.month ≤ 2 then d.month + 9 else d.month - 3

/-- Days from 1970 to the last of February before a year that starts in
March. -/
def daysBeforeYear (year : Int) : Int := 365 * year + year / 4 - year / 100 + year / 400 - 719469

theorem epochDay_eq (d : Date) :
    d.epochDay = daysBeforeYear d.marchYear + (daysBeforeMonth d.marchMonth : Int) + (d.day : Int) := by
  simp only [epochDay, daysBeforeYear, marchYear, marchMonth]
  omega

theorem daysBeforeMonth_mono {m n : Nat} (h : m ≤ n) : daysBeforeMonth m ≤ daysBeforeMonth n := by
  unfold daysBeforeMonth
  omega

theorem daysBeforeYear_mono {y z : Int} (h : y ≤ z) : daysBeforeYear y ≤ daysBeforeYear z := by
  unfold daysBeforeYear
  omega

theorem marchMonth_le (d : Date) : d.marchMonth ≤ 11 := by
  have hmonth := d.month_mem
  unfold marchMonth
  split <;> omega

/-- The days of a month are over before a later month of the same year
begins. -/
theorem day_le_of_month_lt {d : Date} {later : Nat} (hmonth : d.marchMonth < later)
    (hlater : later ≤ 11) :
    daysBeforeMonth d.marchMonth + d.day ≤ daysBeforeMonth later := by
  have hnext : daysBeforeMonth d.marchMonth + d.day ≤ daysBeforeMonth (d.marchMonth + 1) := by
    obtain ⟨hlow, hhigh⟩ := d.month_mem
    have hday := d.day_mem.2
    unfold daysBeforeMonth marchMonth daysInMonth at *
    generalize d.month = month at *
    interval_cases month <;> simp at * <;> omega
  exact hnext.trans (daysBeforeMonth_mono hmonth)

/-- The days of a year are over before a later year begins. -/
theorem day_le_of_year_lt {d : Date} {later : Int} (hyear : d.marchYear < later) :
    daysBeforeYear d.marchYear + (daysBeforeMonth d.marchMonth : Int) + (d.day : Int) ≤
      daysBeforeYear later := by
  have hnext : daysBeforeYear d.marchYear + (daysBeforeMonth d.marchMonth : Int) + (d.day : Int) ≤
      daysBeforeYear (d.marchYear + 1) := by
    have hlast : daysBeforeMonth 11 = 337 := rfl
    by_cases hmonth : d.marchMonth < 11
    · have hday := day_le_of_month_lt hmonth (Nat.le_refl 11)
      unfold daysBeforeYear
      omega
    · -- the last month is February, whose length depends on the year
      have hfeb : d.month = 2 := by
        have hmonths := d.month_mem
        unfold marchMonth at hmonth
        split at hmonth <;> omega
      have hday := d.day_mem.2
      have hleap := daysInMonth_february d.year
      have hmarch : d.marchMonth = 11 := by simp [marchMonth, hfeb]
      have hbefore : d.marchYear = d.year - 1 := by simp [marchYear, hfeb]
      rw [hfeb] at hday
      rw [hmarch, hbefore, hlast]
      unfold daysBeforeYear
      omega
  exact hnext.trans (daysBeforeYear_mono hyear)

/-- Dates come in the same order where years start in March. -/
theorem cmp_eq_lt_iff_march (a b : Date) : a.cmp b = .lt ↔
    a.marchYear < b.marchYear ∨ a.marchYear = b.marchYear ∧
      (a.marchMonth < b.marchMonth ∨ a.marchMonth = b.marchMonth ∧ a.day < b.day) := by
  have hmonth := a.month_mem
  have hmonth' := b.month_mem
  simp only [cmp, Ordering.then_eq_lt, Std.compare_eq_lt, Std.compare_eq_iff_eq, marchYear,
    marchMonth]
  by_cases ha : a.month ≤ 2 <;> by_cases hb : b.month ≤ 2 <;>
    simp only [ha, hb, if_true, if_false] <;> omega

/-- The count of days goes up from each date to every later one. -/
theorem epochDay_lt {a b : Date} (h : a.cmp b = .lt) : a.epochDay < b.epochDay := by
  have hday := b.day_mem.1
  rw [epochDay_eq, epochDay_eq]
  rcases (cmp_eq_lt_iff_march a b).1 h with hyear | ⟨hyear, hmonth | ⟨hmonth, hlater⟩⟩
  · have hover := day_le_of_year_lt hyear
    omega
  · have hover := day_le_of_month_lt hmonth b.marchMonth_le
    rw [hyear]
    omega
  · rw [hyear, hmonth]
    omega

theorem epochDay_congr {a b : Date} (h : a.cmp b = .eq) : a.epochDay = b.epochDay := by
  simp only [cmp, Instant.compare_then_eq_iff, Std.compare_eq_iff_eq] at h
  obtain ⟨hyear, hmonth, hday⟩ := h
  simp only [epochDay, hyear, hmonth, hday]

end Date

namespace Instant

/-- Of two moments the earlier one has fewer seconds, or as many and fewer
nanoseconds. -/
theorem seconds_lt {a b : Instant} (h : a.cmp b = .lt) :
    a.unixSeconds < b.unixSeconds ∨ a.unixSeconds = b.unixSeconds ∧ a.nano < b.nano := by
  have ha := a.second_lt
  simp only [cmp, Ordering.then_eq_lt, Std.compare_eq_lt, Std.compare_eq_iff_eq] at h
  simp only [unixSeconds, daySeconds] at ha ⊢
  rcases h with hdate | ⟨hdate, hsecond | ⟨hsecond, hnano⟩⟩
  · have hday := Date.epochDay_lt hdate
    omega
  · rw [Date.epochDay_congr hdate]
    omega
  · rw [Date.epochDay_congr hdate, hsecond]
    exact .inr ⟨rfl, hnano⟩

/-- The order of instants is the order of time; a leap second counts as the
second before it. -/
theorem cmp_eq_compare_unixSeconds (a b : Instant) :
    a.cmp b = (compare a.unixSeconds b.unixSeconds).then (compare a.nano b.nano) := by
  symm
  cases h : a.cmp b with
  | lt =>
    rw [Ordering.then_eq_lt, Std.compare_eq_lt, Std.compare_eq_iff_eq, Std.compare_eq_lt]
    exact seconds_lt h
  | eq =>
    obtain rfl := cmp_eq_iff.1 h
    simp
  | gt =>
    rw [Ordering.then_eq_gt, Std.compare_eq_gt, Std.compare_eq_iff_eq, Std.compare_eq_gt, eq_comm]
    exact seconds_lt (Std.OrientedCmp.gt_iff_lt.1 h)

end Instant
end ChatServer.Time

namespace ChatServer.Text.Utf8

/-! ## Bytes of ASCII texts -/

variable {xs ys : List Char}

theorem bytesOf_ascii (hx : ∀ c ∈ xs, c.toNat ≤ 127) :
    bytesOf xs = xs.map fun c => UInt8.ofNat c.toNat := by
  induction xs with
  | nil => rfl
  | cons c cs ih =>
    have hc := hx c List.mem_cons_self
    rw [bytesOf_cons, Json.encodeChar_ascii hc, ih fun d hd => hx d (List.mem_cons_of_mem c hd)]
    rfl

/-- The bytes of ASCII texts compare as the texts do. -/
theorem compare_bytesOf_eq_lt_iff (hx : ∀ c ∈ xs, c.toNat ≤ 127) (hy : ∀ c ∈ ys, c.toNat ≤ 127) :
    compare (bytesOf xs) (bytesOf ys) = .lt ↔ xs < ys := by
  rw [bytesOf_ascii hx, bytesOf_ascii hy]
  induction xs generalizing ys with
  | nil => cases ys <;> simp
  | cons c cs ih =>
    cases ys with
    | nil => simp
    | cons d ds =>
      have hc := hx c List.mem_cons_self
      have hd := hy d List.mem_cons_self
      have hrest := ih (fun e he => hx e (List.mem_cons_of_mem c he)) fun e he =>
        hy e (List.mem_cons_of_mem d he)
      have hlt : UInt8.ofNat c.toNat < UInt8.ofNat d.toNat ↔ c < d := by
        rw [UInt8.lt_iff_toNat_lt, toNat_byte (by omega), toNat_byte (by omega), Char.lt_def,
          UInt32.lt_iff_toNat_lt]
        rfl
      have heq : UInt8.ofNat c.toNat = UInt8.ofNat d.toNat ↔ c = d := by
        rw [← UInt8.toNat_inj, toNat_byte (by omega), toNat_byte (by omega), Char.toNat_inj]
      rw [List.map_cons, List.map_cons, List.compare_cons_cons, Ordering.then_eq_lt,
        Std.compare_eq_lt,
        Std.compare_eq_iff_eq, hlt, heq, hrest, List.cons_lt_cons_iff]

end ChatServer.Text.Utf8

namespace ChatServer.Time

open ChatServer.Text Store

/-! ## Stored texts -/

theorem ascii_storedChars (t : Instant) : ∀ c ∈ t.storedChars, c.toNat ≤ 127 := by
  have hpadded (width n : Nat) : ∀ c ∈ padded width n, c.toNat ≤ 127 :=
    fun c hc => Utf8.ascii_of_isDigit (isDigit_of_mem_padded hc)
  have hyear : ∀ c ∈ yearChars t.date.year, c.toNat ≤ 127 := by
    unfold yearChars
    split
    · exact hpadded 4 _
    · refine List.forall_mem_cons.2 ⟨?_,
        fun c hc => Utf8.ascii_of_isDigit (isDigit_of_mem_paddedAtLeast hc)⟩
      split <;> decide
  rw [storedChars_eq, Date.chars]
  simp only [List.forall_mem_append, List.forall_mem_cons]
  exact ⟨⟨⟨hyear, by decide, hpadded 2 _⟩, by decide, hpadded 2 _⟩, by decide,
    ⟨⟨⟨hpadded 2 _, by decide, hpadded 2 _⟩, by decide, hpadded 2 _⟩, by decide, hpadded 9 _⟩,
    by decide, by simp⟩

theorem encode_stored (t : Instant) : Utf8.encode t.stored = Utf8.bytesOf t.storedChars :=
  Utf8.encode_ofList t.storedChars

/-- The bytes of stored texts come in the order of the moments. -/
theorem compare_encode_stored {a b : Instant} (ha : a.hasFourDigitYear = true)
    (hb : b.hasFourDigitYear = true) : compare (Utf8.encode a.stored)
    (Utf8.encode b.stored) = a.cmp b := by
  have earlier : ∀ {a b : Instant}, a.hasFourDigitYear = true → b.hasFourDigitYear = true →
    a.cmp b = .lt →
      compare (Utf8.encode a.stored) (Utf8.encode b.stored) = .lt := by
    intro a b ha hb h
    rw [encode_stored, encode_stored,
      Utf8.compare_bytesOf_eq_lt_iff (ascii_storedChars a) (ascii_storedChars b)]
    have hlt := (stored_lt_iff ha hb).2 h
    rwa [String.lt_iff, Instant.stored, Instant.stored, String.toList_ofList,
      String.toList_ofList] at hlt
  cases h : a.cmp b with
  | lt => exact earlier ha hb h
  | eq =>
    obtain rfl := Instant.cmp_eq_iff.1 h
    exact Std.ReflCmp.compare_self
  | gt => exact Std.OrientedCmp.gt_iff_lt.2 (earlier hb ha (Std.OrientedCmp.gt_iff_lt.1 h))

theorem length_yearChars_iff (year : Int) : (yearChars year).length = 4 ↔ 0 ≤ year ∧
    year ≤ 9999 := by
  unfold yearChars
  split
  · next h => simp [h]
  · next h =>
    have hlong : 4 ≤ (paddedAtLeast 4 year.natAbs).length := by
      unfold paddedAtLeast
      split
      · rw [length_padded]
      · next hn =>
        have hdigits := mt
          (Nat.length_toDigits_le_iff (b := 10) (n := year.natAbs) (k := 4) (by decide) (by decide)).1 hn
        omega
    simp only [List.length_cons, h, iff_false]
    omega

/-- A stored text is 30 bytes wide exactly if its year has four digits. -/
theorem length_encode_stored_iff (t : Instant) :
    (Utf8.encode t.stored).length = 30 ↔ t.hasFourDigitYear = true := by
  rw [encode_stored, Utf8.bytesOf_ascii (ascii_storedChars t), List.length_map, storedChars_eq]
  have hyear := length_yearChars_iff t.date.year
  simp only [Instant.hasFourDigitYear, Bool.and_eq_true, decide_eq_true_eq, ← hyear, Date.chars,
    List.length_append,
    List.length_cons, length_padded, List.length_nil]
  omega

/-- What does not begin with a digit is not read as a stored time. -/
theorem readStored_ne_ok {c : Char} (hc : c.isDigit = false) (cs : List Char) (t : Instant) :
    readStored (c :: cs) ≠ .ok t := by
  have hyear : ∀ fields, number 4 4 (c :: cs) ≠ .ok fields := by
    intro fields
    have hnone : number 4 4 (c :: cs) =
        if Utf8.byteLength (c :: cs) < 4 then .error .tooShort else .error .invalid := by
      simp [number, spanDigits, hc]
    rw [hnone]
    split <;> simp
  intro h
  unfold readStored at h
  split at h
  · cases h
  · obtain ⟨date, hdate, -⟩ := bind_eq_ok.1 h
    obtain ⟨fields, hnumber, -⟩ := bind_eq_ok.1 hdate
    exact hyear fields hnumber

/-- A stored text is read as its moment exactly if its year has four digits;
another year begins with a sign. -/
theorem readTime_stored_iff (t : Instant) :
    readTime t.stored = .ok t ↔ t.hasFourDigitYear = true := by
  refine ⟨?_, readTime_stored⟩
  intro h
  by_contra hyear
  have hsign : ∃ sign cs, t.storedChars = sign :: cs ∧ sign.isDigit = false := by
    simp only [Instant.hasFourDigitYear, Bool.and_eq_true, decide_eq_true_eq] at hyear
    rw [storedChars_eq, Date.chars, yearChars, if_neg hyear]
    exact ⟨_, _, rfl, by split <;> decide⟩
  obtain ⟨sign, cs, hchars, hsign⟩ := hsign
  rw [readTime, Instant.stored, String.toList_ofList, hchars] at h
  cases hread : readStored (sign :: cs) with
  | error fault => rw [hread] at h; cases h
  | ok moment => exact readStored_ne_ok hsign cs moment hread

/-! ## The code -/

/-- **Stored times are a code that keeps the order.** Within the years that can
be stored, the bytes of two stored texts compare as their moments do, which is
the order of seconds since 1970 and of nanoseconds, a leap second being more
nanoseconds of the second before it; and a stored text is read as the moment it
was written for. The short text of any moment is read as that moment. That a
moment can be stored is exactly what makes its stored text 30 bytes wide. -/
theorem storedTime_code :
    (∀ a b : Instant, a.hasFourDigitYear = true → b.hasFourDigitYear = true →
      compare (Utf8.encode a.stored) (Utf8.encode b.stored) = a.cmp b) ∧
    (∀ a b : Instant, a.cmp b = (compare a.unixSeconds b.unixSeconds).then (compare a.nano b.nano)) ∧
    (∀ a : Instant, readTime a.stored = .ok a ↔ a.hasFourDigitYear = true) ∧
    (∀ a : Instant, (Timestamp.parse (Timestamp.ofInstant a).text).map Timestamp.instant = .ok a) ∧
    ∀ t : Timestamp, (Utf8.encode t.instant.stored).length = 30 ↔ t.isStorable = true := by
  refine ⟨fun a b ha hb => compare_encode_stored ha hb, Instant.cmp_eq_compare_unixSeconds,
    readTime_stored_iff, ?_, ?_⟩
  · intro a
    rw [Timestamp.parse_text]
    rfl
  · intro t
    exact length_encode_stored_iff t.instant

/-- The leap second at the end of a leap day, and the midnight after it. -/
theorem storedTime_code_leap :
    let leap : Instant :=
      ⟨⟨0, 2, 29, by decide, by decide, by decide⟩, 86399,
        1999999999, by decide, by decide, by decide⟩
    let midnight : Instant :=
      ⟨⟨0, 3, 1, by decide, by decide, by decide⟩, 0, 0, by decide, by decide, by decide⟩
    compare (Utf8.encode leap.stored) (Utf8.encode midnight.stored) = .lt ∧
      leap.stored = "0000-02-29T23:59:60.999999999Z" ∧ readTime leap.stored = .ok leap := by
  intro leap midnight
  have hleap : leap.hasFourDigitYear = true := by decide
  obtain ⟨horder, -, hread, -⟩ := storedTime_code
  exact ⟨horder leap midnight hleap (by decide), by decide +kernel, (hread leap).2 hleap⟩

end ChatServer.Time

