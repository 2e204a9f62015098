import ChatServer.Proofs.JsonText
import ChatServer.Text.Integer

/-!
# Numerals

A setting or a query holds a number where its text is a numeral: digits, at
least one of them, behind a plus sign or none, or behind a minus sign where
there are negative numbers. The reader stops at the first digit that leads out
of the range, which loses nothing, since more digits only lead farther away from
zero.

* `readDigits_eq_ok_iff`: what digits are read as.
* `read_eq_ok_iff`: the texts that are read as a number, and which.
* `read_toDigits`: the decimal form is one of them.
-/
namespace ChatServer.Text.Integer

def Range.Holds (r : Range) (n : Int) : Prop := r.low ≤ n ∧ n ≤ r.high

theorem Range.holds_unsigned (bits : Nat) : (Range.unsigned bits).Holds 0 := by
  have hpos : 0 < 1 <<< bits := by
    rw [Nat.one_shiftLeft]
    exact Nat.two_pow_pos bits
  exact ⟨Int.le_refl 0, by simp only [Range.unsigned]; omega⟩

/-- A numeral of a number of the range. -/
inductive Numeral (r : Range) : List Char → Int → Prop
  | bare {ds : List Char} (hne : ds ≠ []) (hds : ∀ c ∈ ds, c.isDigit = true)
      (hr : r.Holds (digitsValue ds)) :
    Numeral r ds (digitsValue ds)
  | plus {ds : List Char} (hne : ds ≠ []) (hds : ∀ c ∈ ds, c.isDigit = true)
      (hr : r.Holds (digitsValue ds)) :
    Numeral r ('+' :: ds) (digitsValue ds)
  | minus {ds : List Char} (hnegative : r.low < 0) (hne : ds ≠ [])
      (hds : ∀ c ∈ ds, c.isDigit = true)
    (hr : r.Holds (-(digitsValue ds : Int))) : Numeral r ('-' :: ds) (-(digitsValue ds : Int))

/-- A number counted upwards or downwards. -/
def signed (negative : Bool) (n : Nat) : Int := if negative then -n else n

theorem grow_signed (negative : Bool) (n : Nat) (c : Char) :
    grow negative (signed negative n)
    (digitsValue [c]) = signed negative (10 * n + (c.toNat - '0'.toNat)) := by
  have hdigit : digitsValue [c] = c.toNat - '0'.toNat := by simp [digitsValue, Nat.ofDigitChars]
  cases negative with
  | false => simp only [grow, signed, hdigit, Bool.false_eq_true, if_false]; omega
  | true => simp only [grow, signed, hdigit, if_true]; omega

section
variable {r : Range} (hzero : r.Holds 0) {negative : Bool}
include hzero

/-- What lies between zero and a number of the range is in the range, too. -/
theorem holds_of_le {n k : Nat} (h : n ≤ k) (hk : r.Holds (signed negative k)) :
    r.Holds (signed negative n) := by
  obtain ⟨hlow, hhigh⟩ := hzero
  obtain ⟨hlow', hhigh'⟩ := hk
  unfold Range.Holds signed at *
  cases negative with
  | false => simp only [Bool.false_eq_true, if_false] at *; omega
  | true => simp only [if_true] at *; omega

/-- Digits are read as the number that they go on with, where the range has
that. -/
theorem readDigits_eq_ok_iff {cs : List Char} {n : Nat} (hn : r.Holds (signed negative n))
    {m : Int} :
    readDigits r negative (signed negative n) cs = .ok m ↔
      (∀ c ∈ cs, c.isDigit = true) ∧ m = signed negative (Nat.ofDigitChars 10 cs n) ∧
        r.Holds m := by
  induction cs generalizing n with
  | nil =>
    constructor
    · intro h
      cases h
      exact ⟨nofun, rfl, hn⟩
    · rintro ⟨-, rfl, -⟩
      rfl
  | cons c cs ih =>
    rw [readDigits, grow_signed, Nat.ofDigitChars_cons]
    generalize hnext : 10 * n + (c.toNat - '0'.toNat) = next
    constructor
    · intro h
      split at h
      · cases h
      next hc =>
      split at h
      · cases h
      split at h
      · cases h
      obtain ⟨hds, hm, hr⟩ := (ih ⟨by omega, by omega⟩).1 h
      refine ⟨List.forall_mem_cons.2 ⟨by simpa using hc, hds⟩, hm, hr⟩
    · rintro ⟨hds, rfl, hr⟩
      obtain ⟨hc, hds⟩ := List.forall_mem_cons.1 hds
      -- a number on the way to one of the range is in the range
      have hheld : r.Holds (signed negative next) :=
        holds_of_le hzero (Json.le_ofDigitChars cs next) hr
      rw [hc, if_neg (by decide), if_neg (by have := hheld.1; omega),
        if_neg (by have := hheld.2; omega)]
      exact (ih hheld).2 ⟨hds, rfl, hr⟩

/-- Digits alone are read as their number, upwards or downwards. -/
theorem readDigits_zero_iff {cs : List Char} {m : Int} :
    readDigits r negative 0 cs = .ok m ↔
      (∀ c ∈ cs, c.isDigit = true) ∧ m = signed negative (digitsValue cs) ∧ r.Holds m := by
  have hstart : signed negative 0 = 0 := by cases negative <;> rfl
  rw [digitsValue, ← readDigits_eq_ok_iff hzero (by rwa [hstart]), hstart]

/-- The texts that are read as a number are its numerals. -/
theorem read_eq_ok_iff {cs : List Char} {n : Int} : read r cs = .ok n ↔ Numeral r cs n := by
  constructor
  · intro h
    unfold read at h
    split at h
    · cases h
    next c rest =>
    dsimp only at h
    split at h
    · next hsign =>
      split at h
      · cases h
      next hne =>
      have hne : rest ≠ [] := by simpa using hne
      obtain ⟨hds, rfl, hr⟩ := (readDigits_zero_iff hzero).1 h
      rcases hsign with rfl | ⟨rfl, hnegative⟩
      · exact .plus hne hds hr
      · exact .minus hnegative hne hds hr
    · obtain ⟨hds, rfl, hr⟩ := (readDigits_zero_iff hzero).1 h
      exact .bare (List.cons_ne_nil c rest) hds hr
  · intro h
    cases h with
    | @bare ds hne hds hr =>
      obtain ⟨c, rest, rfl⟩ := List.exists_cons_of_ne_nil hne
      have hsign : ¬ (c = '+' ∨ (c = '-' ∧ r.low < 0)) := by
        rintro (rfl | ⟨rfl, -⟩) <;> cases hds _ List.mem_cons_self
      rw [read, if_neg hsign]
      exact (readDigits_zero_iff hzero).2 ⟨hds, rfl, hr⟩
    | plus hne hds hr =>
      rw [read, if_pos (.inl rfl), if_neg (by simpa using hne)]
      exact (readDigits_zero_iff hzero).2 ⟨hds, rfl, hr⟩
    | minus hnegative hne hds hr =>
      rw [read, if_pos (.inr ⟨rfl, hnegative⟩), if_neg (by simpa using hne)]
      exact (readDigits_zero_iff hzero).2 ⟨hds, rfl, hr⟩

/-- A number of the range is read from its decimal form. -/
theorem read_toDigits {n : Nat} (hn : r.Holds n) : read r (Nat.toDigits 10 n) = .ok (n : Int) := by
  have hds : ∀ c ∈ Nat.toDigits 10 n, c.isDigit = true := fun c hc =>
    Nat.isDigit_of_mem_toDigits (by decide) (by decide) hc
  have hne : Nat.toDigits 10 n ≠ [] := by
    obtain ⟨c, cs, hcs, -⟩ := Json.toDigits_cons n
    rw [hcs]
    exact List.cons_ne_nil c cs
  have hvalue : digitsValue (Nat.toDigits 10 n) = n := Nat.ofDigitChars_ten_toDigits
  have hnumeral : Numeral r (Nat.toDigits 10 n) (digitsValue (Nat.toDigits 10 n)) :=
    .bare hne hds (hvalue.symm ▸ hn)
  rw [hvalue] at hnumeral
  exact (read_eq_ok_iff hzero).2 hnumeral

end

end ChatServer.Text.Integer

