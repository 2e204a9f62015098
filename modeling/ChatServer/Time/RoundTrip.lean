import ChatServer.Time.Stored
import ChatServer.Time.Submitted
import ChatServer.Time.Text

/-!
# Reading written times

Each of the two written forms of an instant is read as that instant: the stored
form by the strict grammar, the short form by the lenient one. A leap second
shows as second 60 and is read as one.

* `readStored_storedChars`: within the years 0000 to 9999, the stored form.
* `readSubmitted_shortChars`: the short form, whatever the year.
-/
namespace ChatServer.Time

open ChatServer.Text

theorem number_append {least most : Nat} {ds rest : List Char} (hd : ∀ c ∈ ds, c.isDigit = true)
    (hl : least ≤ ds.length) (hm : ds.length ≤ most)
    (hr : ds.length = most ∨ ∀ c ∈ rest.head?, c.isDigit = false) :
    number least most (ds ++ rest) = .ok (digitsValue ds, rest) := by
  simp [number, spanDigits_append hd hm hr, hl]

theorem number_padded {width n : Nat} (h : n < Nat.pow 10 width) (rest : List Char) :
    number width width (padded width n ++ rest) = .ok (n, rest) := by
  rw [number_append (fun _ => isDigit_of_mem_padded) (by simp) (by simp) (.inl (by simp)),
    digitsValue_padded, Nat.mod_eq_of_lt h]

theorem fraction_padded {width n : Nat} (h : n < Nat.pow 10 width) (h0 : 1 ≤ width) (h9 : width ≤ 9)
    {rest : List Char} (hr : ∀ c ∈ rest.head?, c.isDigit = false) :
    fraction ('.' :: padded width n ++ rest) = .ok (n * Nat.pow 10 (9 - width), rest) := by
  have hne : padded width n ≠ [] := by
    intro he
    have := length_padded width n
    rw [he] at this
    simp at this; omega
  have hdrop : rest.dropWhile Char.isDigit = rest := by
    cases rest with
    | nil => rfl
    | cons c cs => simp [hr c rfl]
  simp only [List.cons_append, fraction]
  rw [spanDigits_append (fun _ => isDigit_of_mem_padded) (by simpa using h9) (.inr hr)]
  rw [digitsValue_padded, Nat.mod_eq_of_lt h, length_padded, hdrop]
  simp [hne]

theorem shownSecond_eq_sixty_iff (t : Instant) : t.shownSecond = 60 ↔ secondNanos ≤ t.nano := by
  have hn := t.nano_lt
  have hleap := t.leap
  simp only [Instant.shownSecond, secondNanos] at *
  omega

theorem shownSecond_le (t : Instant) : t.shownSecond ≤ 60 := by
  have hn := t.nano_lt
  have hleap := t.leap
  simp only [Instant.shownSecond, secondNanos] at *
  omega

/-- The fields that are written for an instant show that instant. -/
theorem moment_fields (t : Instant) :
    moment t.date.year t.date.month t.date.day (t.second / 3600) (t.second / 60 % 60) t.shownSecond
      (t.nano % secondNanos) 0 = .ok t := by
  have hoff : ¬ ((0 : Int) ≤ -(daySeconds : Int) ∨ (daySeconds : Int) ≤ 0) := by
    simp [daySeconds]
  have hn := t.nano_lt
  simp only [moment, Date.ofParts?_self, hoff, if_false, shownSecond_eq_sixty_iff]
  by_cases h : secondNanos ≤ t.nano
  · have hsec : t.second / 3600 * 3600 + t.second / 60 % 60 * 60 + 59 = t.second := by
      have := t.leap h
      omega
    have hnano : secondNanos + t.nano % secondNanos = t.nano := by
      simp only [secondNanos] at *
      omega
    rw [if_pos h, if_pos h, hsec, hnano, Instant.ofLocal?_utc]
  · have hshown : t.shownSecond = t.second % 60 := by
      simp only [Instant.shownSecond, secondNanos] at *
      omega
    have hsec : t.second / 3600 * 3600 + t.second / 60 % 60 * 60 + t.second % 60 = t.second := by
      omega
    rw [if_neg h, if_neg h, hshown, hsec, Nat.mod_eq_of_lt (by omega), Instant.ofLocal?_utc]

/-! ## The stored form -/

theorem storedDate_chars {d : Date} (h : 0 ≤ d.year ∧ d.year ≤ 9999) (rest : List Char) :
    storedDate (d.chars ++ rest) = .ok ((d.year.natAbs, d.month, d.day), rest) := by
  have hy : d.year.natAbs < Nat.pow 10 4 := show d.year.natAbs < 10000 by omega
  have hyear : ((d.year.natAbs : Nat) : Int) = d.year := by omega
  have hm : d.month < Nat.pow 10 2 := show d.month < 100 by have := d.month_mem; omega
  have hd : d.day < Nat.pow 10 2 := by
    have := d.day_mem
    have := daysInMonth_le d.year d.month
    show d.day < 100
    omega
  simp only [Date.chars, yearChars, if_pos h, List.append_assoc, List.cons_append, storedDate,
    number_padded hy, number_padded hm, number_padded hd, mark, bind, Except.bind, if_true, hyear,
    Date.ofParts?_self, Option.isSome_some]

theorem storedTime_chars (t : Instant) {rest : List Char}
    (hr : ∀ c ∈ rest.head?, c.isDigit = false) :
    storedTime (padded 2 (t.second / 3600) ++ ':' :: padded 2 (t.second / 60 % 60) ++
      ':' :: padded 2 t.shownSecond ++ '.' :: padded 9 (t.nano % secondNanos) ++ rest) =
      .ok ((t.second / 3600, t.second / 60 % 60, t.shownSecond, t.nano % secondNanos), rest) := by
  have hs := t.second_lt
  have hshown := shownSecond_le t
  have hh : t.second / 3600 ≤ 23 := by simp only [daySeconds] at hs; omega
  have hm : t.second / 60 % 60 ≤ 59 := by omega
  have hn : t.nano % secondNanos < Nat.pow 10 9 := Nat.mod_lt _ (by decide)
  have hfrac := fraction_padded hn (by decide) (by decide) hr
  simp only [List.cons_append] at hfrac
  simp only [List.append_assoc, List.cons_append, storedTime, bind, Except.bind,
    number_padded (show t.second / 3600 < Nat.pow 10 2 from (by omega : t.second / 3600 < 100)),
    number_padded (show t.second / 60 % 60 < Nat.pow 10 2 from (by omega : t.second / 60 % 60 < 100)),
    number_padded (show t.shownSecond < Nat.pow 10 2 from (by omega : t.shownSecond < 100)), mark,
      if_true, hfrac]
  simp [hh, hm, hshown]

theorem storedChars_eq (t : Instant) : t.storedChars =
    t.date.chars ++ 'T' :: (padded 2 (t.second / 3600) ++ ':' :: padded 2 (t.second / 60 % 60) ++
      ':' :: padded 2 t.shownSecond ++ '.' :: padded 9 (t.nano % secondNanos) ++ ['Z']) := by
  simp [Instant.storedChars, Instant.secondChars]

/-- Within four-digit years the stored form of an instant is read as that
instant. -/
theorem readStored_storedChars {t : Instant} (h : t.hasFourDigitYear = true) :
    readStored t.storedChars = .ok t := by
  have hlen : ¬ Utf8.byteLength t.storedChars < shortestStored := by
    have := Utf8.length_le_byteLength t.storedChars
    rw [Instant.length_storedChars h] at this
    simp only [shortestStored]
    omega
  simp only [Instant.hasFourDigitYear, Bool.and_eq_true, decide_eq_true_eq] at h
  have hyear : ((t.date.year.natAbs : Nat) : Int) = t.date.year := by omega
  rw [readStored, if_neg hlen, storedChars_eq]
  simp only [storedDate_chars h, separator, true_or, if_true, bind, Except.bind]
  rw [storedTime_chars t (show ∀ c ∈ ['Z'].head?, c.isDigit = false by simp)]
  simp [offsetFromUtc, hyear, moment_fields]

/-! ## The short form -/

theorem trimStart_padded {width : Nat} (h : 0 < width) (n : Nat) (rest : List Char) :
    trimStart (padded width n ++ rest) = padded width n ++ rest := by
  obtain ⟨c, cs, hp, hc⟩ := exists_cons_padded h n
  rw [hp]
  exact trimStart_cons (isBlank_of_isDigit hc) _

theorem numberIn_padded {n low high : Nat} (hl : low ≤ n) (hh : n ≤ high) (h : n < 100)
    (rest : List Char) : numberIn 1 2 low high (padded 2 n ++ rest) = .ok (n, rest) := by
  have hread : number 1 2 (padded 2 n ++ rest) = .ok (digitsValue (padded 2 n), rest) :=
    number_append (fun _ => isDigit_of_mem_padded) (by simp) (by simp) (.inl (by simp))
  rw [digitsValue_padded, Nat.mod_eq_of_lt (show n < Nat.pow 10 2 from h)] at hread
  simp [numberIn, hread, bind, Except.bind, hl, hh]

theorem number_paddedAtLeast (n : Nat) (rest : List Char) :
    number 1 (paddedAtLeast 4 n ++ '-' :: rest).length.succ (paddedAtLeast 4 n ++ '-' :: rest) =
      .ok (n, '-' :: rest) := by
  rw [number_append (fun _ => isDigit_of_mem_paddedAtLeast) (length_paddedAtLeast_pos (by decide) n)
    (by simp; omega) (.inr (by simp)), digitsValue_paddedAtLeast]

theorem readYear_padded {n : Nat} (h : n < 10000) (rest : List Char) :
    readYear (padded 4 n ++ rest) = .ok ((n : Int), rest) := by
  have hread : number 1 4 (padded 4 n ++ rest) = .ok (digitsValue (padded 4 n), rest) :=
    number_append (fun _ => isDigit_of_mem_padded) (by simp) (by simp) (.inl (by simp))
  rw [digitsValue_padded, Nat.mod_eq_of_lt (show n < Nat.pow 10 4 from h)] at hread
  obtain ⟨c, cs, hp, hc⟩ := exists_cons_padded (show 0 < 4 by decide) n
  rw [hp, List.cons_append] at hread ⊢
  unfold readYear
  split
  · next he => cases he; cases hc
  · next he => cases he; cases hc
  · simp [hread, bind, Except.bind]

theorem readYear_yearChars {year : Int} (h : minYear ≤ year ∧ year ≤ maxYear) (rest : List Char) :
    readYear (yearChars year ++ '-' :: rest) = .ok (year, '-' :: rest) := by
  simp only [minYear, maxYear] at h
  unfold yearChars
  by_cases h4 : 0 ≤ year ∧ year ≤ 9999
  · have hyear : ((year.natAbs : Nat) : Int) = year := by omega
    rw [if_pos h4, readYear_padded (by omega), hyear]
  · rw [if_neg h4]
    by_cases hneg : year < 0
    · have hlim : year.natAbs ≤ yearLimit + 1 := by simp only [yearLimit]; omega
      have hyear : -((year.natAbs : Nat) : Int) = year := by omega
      simp only [if_pos hneg, List.cons_append, readYear, number_paddedAtLeast, bind, Except.bind,
        if_pos hlim, hyear]
    · have hlim : year.natAbs ≤ yearLimit := by simp only [yearLimit]; omega
      have hyear : ((year.natAbs : Nat) : Int) = year := by omega
      simp only [if_neg hneg, List.cons_append, readYear, number_paddedAtLeast, bind, Except.bind,
        if_pos hlim, hyear]

theorem trimStart_yearChars (year : Int) (rest : List Char) :
    trimStart (yearChars year ++ rest) = yearChars year ++ rest := by
  unfold yearChars
  split
  · exact trimStart_padded (by decide) _ _
  · rw [List.cons_append, trimStart_cons]
    split <;> decide

theorem fraction_fractionChars {nano : Nat} (h : nano < secondNanos) {rest : List Char}
    (hd : ∀ c ∈ rest.head?, c.isDigit = false) (hp : rest.head? ≠ some '.') :
    fraction (Instant.fractionChars nano ++ rest) = .ok (nano, rest) := by
  simp only [secondNanos] at h
  unfold Instant.fractionChars
  by_cases h0 : nano = 0
  · rw [if_pos h0, List.nil_append, h0]
    unfold fraction
    split
    · exact absurd rfl hp
    · rfl
  · rw [if_neg h0]
    by_cases h3 : nano % 1000000 = 0
    · have hlim : nano / 1000000 < 1000 := by omega
      have hback : nano / 1000000 * 1000000 = nano := by omega
      rw [if_pos h3, fraction_padded hlim (by decide) (by decide) hd]
      exact congrArg (fun n => Except.ok (n, rest)) hback
    · rw [if_neg h3]
      by_cases h6 : nano % 1000 = 0
      · have hlim : nano / 1000 < 1000000 := by omega
        have hback : nano / 1000 * 1000 = nano := by omega
        rw [if_pos h6, fraction_padded hlim (by decide) (by decide) hd]
        exact congrArg (fun n => Except.ok (n, rest)) hback
      · rw [if_neg h6, fraction_padded h (by decide) (by decide) hd]
        exact congrArg (fun n => Except.ok (n, rest)) (Nat.mul_one nano)

theorem shortChars_eq (t : Instant) : t.shortChars =
    yearChars t.date.year ++ '-' :: (padded 2 t.date.month ++ '-' :: (padded 2 t.date.day ++
      'T' :: (padded 2 (t.second / 3600) ++ ':' :: (padded 2 (t.second / 60 % 60) ++
        ':' :: (padded 2 t.shownSecond ++
          (Instant.fractionChars (t.nano % secondNanos) ++ ['Z'])))))) := by
  simp [Instant.shortChars, Instant.secondChars, Date.chars]

/-- The short form of an instant is read as that instant, whatever its year. -/
theorem readSubmitted_shortChars (t : Instant) : readSubmitted t.shortChars = .ok t := by
  have hs := t.second_lt
  have hmonth := t.date.month_mem
  have hday := t.date.day_mem
  have hday31 := daysInMonth_le t.date.year t.date.month
  have hshown := shownSecond_le t
  have hn : t.nano % secondNanos < secondNanos := Nat.mod_lt _ (by decide)
  simp only [daySeconds] at hs
  have hfrac : fraction (Instant.fractionChars (t.nano % secondNanos) ++ ['Z']) =
      .ok (t.nano % secondNanos, ['Z']) := fraction_fractionChars hn (by simp) (by simp)
  rw [shortChars_eq]
  simp only [readSubmitted, trimStart_yearChars, readYear_yearChars t.date.year_mem, bind,
    Except.bind,
    trimStart_cons (show isBlank '-' = false by decide),
    trimStart_cons (show isBlank ':' = false by decide),
    trimStart_cons (show isBlank 'Z' = false by decide),
    trimStart_padded (show 0 < 2 by decide), mark, separator, if_true, true_or,
    numberIn_padded hmonth.1 hmonth.2 (by omega),
    numberIn_padded hday.1 (by omega : t.date.day ≤ 31) (by omega),
    numberIn_padded (Nat.zero_le _) (by omega : t.second / 3600 ≤ 23) (by omega),
    numberIn_padded (Nat.zero_le _) (by omega : t.second / 60 % 60 ≤ 59) (by omega),
    numberIn_padded (Nat.zero_le _) hshown (by omega), hfrac]
  simp [readZone, offsetFromUtc, trimStart, moment_fields]

end ChatServer.Time

