import ChatServer.Time.RoundTrip

/-!
# The order of stored times

Within the years 0000 to 9999 the stored form has one width, so the order of
stored texts is the order of the instants, leap seconds included. The store
relies on it: it sorts messages by a text column.

* `stored_lt_iff`, `stored_le_iff`: stored texts compare as their instants do.
* `Instant.cmp` is a total order (`TransCmp`, `OrientedCmp`).
-/
namespace ChatServer.Text

theorem digitChar_lt_iff (m n : Nat) : digitChar m < digitChar n ↔ m % 10 < n % 10 := by
  have hm := toNat_digitChar m
  have hn := toNat_digitChar n
  simp only [Char.lt_def, UInt32.lt_iff_toNat_lt]
  simp only [Char.toNat] at hm hn
  omega

theorem digitChar_eq_iff (m n : Nat) : digitChar m = digitChar n ↔ m % 10 = n % 10 := by
  constructor
  · intro h
    have hm := toNat_digitChar m
    rw [h, toNat_digitChar] at hm
    omega
  · intro h
    simp only [digitChar, h]

/-- Numbers of one width compare as their texts do, and what follows decides
between equal ones. -/
theorem padded_append_lt_iff {width m n : Nat} (hm : m < Nat.pow 10 width)
    (hn : n < Nat.pow 10 width) (xs ys : List Char) :
    padded width m ++ xs < padded width n ++ ys ↔ m < n ∨ m = n ∧ xs < ys := by
  induction width generalizing m n xs ys with
  | zero =>
    have hm0 : m = 0 := by simpa using hm
    have hn0 : n = 0 := by simpa using hn
    simp [padded, hm0, hn0]
  | succ w ih =>
    have cut : ∀ k, k < Nat.pow 10 (w + 1) → k / 10 < Nat.pow 10 w := by
      intro k hk
      exact Nat.div_lt_of_lt_mul (by rwa [Nat.mul_comm])
    simp only [padded, List.append_assoc, List.cons_append, List.nil_append]
    rw [ih (cut m hm) (cut n hn), List.cons_lt_cons_iff, digitChar_lt_iff, digitChar_eq_iff]
    constructor
    · rintro (h | ⟨h, h' | ⟨h', hxs⟩⟩)
      · exact .inl (by omega)
      · exact .inl (by omega)
      · exact .inr ⟨by omega, hxs⟩
    · rintro (h | ⟨rfl, hxs⟩)
      · by_cases hq : m / 10 < n / 10
        · exact .inl hq
        · exact .inr ⟨by omega, .inl (by omega)⟩
      · exact .inr ⟨rfl, .inr ⟨rfl, hxs⟩⟩

end ChatServer.Text

namespace ChatServer.Time
open ChatServer.Text

/-! ## The order of instants -/

instance : Std.TransCmp Date.cmp :=
  inferInstanceAs (Std.TransCmp (compareLex (compareOn Date.year)
    (compareLex (compareOn Date.month) (compareOn Date.day))))

instance : Std.TransCmp Instant.cmp :=
  have : Std.TransCmp fun a b : Instant => a.date.cmp b.date :=
    { eq_swap := Std.OrientedCmp.eq_swap, isLE_trans := Std.TransCmp.isLE_trans }
  inferInstanceAs (Std.TransCmp (compareLex (fun a b => Date.cmp a.date b.date)
    (compareLex (compareOn Instant.second) (compareOn Instant.nano))))

theorem cmp_swap (a b : Instant) : b.cmp a = (a.cmp b).swap := Std.OrientedCmp.eq_swap

theorem isLE_cmp_total (a b : Instant) : ((a.cmp b).isLE || (b.cmp a).isLE) = true := by
  rw [cmp_swap a b]
  cases a.cmp b <;> rfl

/-- One date comes first, or both are the same and one time of day comes
first. -/
theorem cmp_eq_lt_iff (a b : Instant) : a.cmp b = .lt ↔
    (a.date.year < b.date.year ∨ a.date.year = b.date.year ∧ (a.date.month < b.date.month ∨
      a.date.month = b.date.month ∧ a.date.day < b.date.day)) ∨
    (a.date.year = b.date.year ∧ a.date.month = b.date.month ∧ a.date.day = b.date.day) ∧
      (a.second < b.second ∨ a.second = b.second ∧ a.nano < b.nano) := by
  simp only [Instant.cmp, Date.cmp, Ordering.then_eq_lt, Ordering.then_eq_eq, Std.compare_eq_iff_eq,
    Std.compare_eq_lt]

/-- Times of day compare as what is shown of them: hour, minute, second up to
60, nanosecond. -/
theorem shown_lt_iff (a b : Instant) :
    (a.second < b.second ∨ a.second = b.second ∧ a.nano < b.nano) ↔
      a.second / 3600 < b.second / 3600 ∨ a.second / 3600 = b.second / 3600 ∧
        (a.second / 60 % 60 < b.second / 60 % 60 ∨ a.second / 60 % 60 = b.second / 60 % 60 ∧
          (a.shownSecond < b.shownSecond ∨ a.shownSecond = b.shownSecond ∧
            a.nano % secondNanos < b.nano % secondNanos)) := by
  have ha := a.nano_lt
  have hb := b.nano_lt
  have hla := a.leap
  have hlb := b.leap
  simp only [Instant.shownSecond, secondNanos] at *
  omega

/-! ## The order of texts -/

theorem Instant.chars_bounds {t : Instant} (h : t.hasFourDigitYear = true) :
    (0 ≤ t.date.year ∧ t.date.year ≤ 9999) ∧ t.date.year.natAbs < Nat.pow 10 4 ∧
      t.date.month < Nat.pow 10 2 ∧ t.date.day < Nat.pow 10 2 ∧ t.second / 3600 < Nat.pow 10 2 ∧
      t.second / 60 % 60 < Nat.pow 10 2 ∧ t.shownSecond < Nat.pow 10 2 ∧
      t.nano % secondNanos < Nat.pow 10 9 := by
  simp only [Instant.hasFourDigitYear, Bool.and_eq_true, decide_eq_true_eq] at h
  have hmonth := t.date.month_mem
  have hday := t.date.day_mem
  have hdays := daysInMonth_le t.date.year t.date.month
  have hsecond := t.second_lt
  have hshown := shownSecond_le t
  simp only [daySeconds] at hsecond
  have two : ∀ k, k < 100 → k < Nat.pow 10 2 := fun _ hk => hk
  refine ⟨h, show t.date.year.natAbs < 10000 by omega, two _ ?_, two _ ?_, two _ ?_, two _ ?_,
    two _ ?_, Nat.mod_lt _ (by decide)⟩ <;> omega

theorem stored_lt_iff {a b : Instant} (ha : a.hasFourDigitYear = true)
    (hb : b.hasFourDigitYear = true) :
    a.stored < b.stored ↔ a.cmp b = .lt := by
  obtain ⟨hya, ha1, ha2, ha3, ha4, ha5, ha6, ha7⟩ := Instant.chars_bounds ha
  obtain ⟨hyb, hb1, hb2, hb3, hb4, hb5, hb6, hb7⟩ := Instant.chars_bounds hb
  have hlt : a.date.year.natAbs < b.date.year.natAbs ↔ a.date.year < b.date.year := by omega
  have heq : a.date.year.natAbs = b.date.year.natAbs ↔ a.date.year = b.date.year := by omega
  rw [cmp_eq_lt_iff, shown_lt_iff, Instant.stored, Instant.stored, String.lt_iff]
  simp only [String.toList_ofList, storedChars_eq, Date.chars, yearChars, if_pos hya, if_pos hyb,
    List.append_assoc, List.cons_append, List.cons_lt_cons_self, padded_append_lt_iff ha1 hb1,
    padded_append_lt_iff ha2 hb2, padded_append_lt_iff ha3 hb3, padded_append_lt_iff ha4 hb4,
    padded_append_lt_iff ha5 hb5, padded_append_lt_iff ha6 hb6, padded_append_lt_iff ha7 hb7,
    List.lt_irrefl, and_false, or_false, hlt, heq]
  simp only [and_or_left, and_assoc, or_assoc]

theorem stored_le_iff {a b : Instant} (ha : a.hasFourDigitYear = true)
    (hb : b.hasFourDigitYear = true) :
    a.stored ≤ b.stored ↔ (a.cmp b).isLE = true := by
  rw [← String.not_lt, stored_lt_iff hb ha, ← Ordering.swap_eq_gt, ← Std.OrientedCmp.eq_swap]
  cases a.cmp b <;> decide

end ChatServer.Time

