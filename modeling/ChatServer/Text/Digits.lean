/-!
# Decimal digits

Numbers written with a fixed count of decimal digits, and the digits at the
front of a text. Numbers of any size are written by core's `Nat.toDigits 10`.

* `length_padded`: a padded number has exactly the asked width.
* `digitsValue_padded`: reading a padded number gives the number, cut to that
  many digits.
* `spanDigits_append`: digits in front of something else are spanned exactly.
-/
namespace ChatServer.Text

/-- The character of a decimal digit; the last digit of a larger number. -/
def digitChar (n : Nat) : Char := Char.ofNat (0x30 + n % 10)

/-- The last `width` decimal digits, with zeros in front where the number is
shorter. -/
def padded : Nat → Nat → List Char
  | 0, _ => []
  | width + 1, n => padded width (n / 10) ++ [digitChar n]

/-- The number with at least `width` digits. -/
def paddedAtLeast (width n : Nat) : List Char :=
  if n < Nat.pow 10 width then padded width n else Nat.toDigits 10 n

/-- The decimal form with the fewest digits. -/
def decimal (n : Nat) : String := String.ofList (Nat.toDigits 10 n)

/-- The decimal form of an integer, with a minus sign in front of a negative
one. -/
def decimalInt (n : Int) : String :=
  if n < 0 then "-" ++ decimal n.natAbs else decimal n.natAbs

/-- The digits at the front, at most `limit` of them, and what follows. -/
def spanDigits (limit : Nat) (cs : List Char) : List Char × List Char :=
  let ds := (cs.take limit).takeWhile Char.isDigit
  (ds, cs.drop ds.length)

def digitsValue (ds : List Char) : Nat := Nat.ofDigitChars 10 ds 0

@[simp] theorem length_padded (width n : Nat) : (padded width n).length = width := by
  induction width generalizing n with
  | zero => rfl
  | succ w ih => simp [padded, ih]

theorem toNat_digitChar (n : Nat) : (digitChar n).toNat = 0x30 + n % 10 := by
  have h : n % 10 < 10 := Nat.mod_lt _ (by decide)
  have all : ∀ d, d < 10 → (Char.ofNat (0x30 + d)).toNat = 0x30 + d := by decide
  exact all _ h

theorem digitsValue_padded (width n : Nat) :
    digitsValue (padded width n) = n % Nat.pow 10 width := by
  induction width generalizing n with
  | zero => simp [padded, digitsValue, Nat.ofDigitChars, Nat.mod_one]
  | succ w ih =>
    have step : digitsValue (padded (w + 1) n) = 10 * digitsValue (padded w (n / 10)) + n % 10 := by
      simp only [digitsValue, padded, Nat.ofDigitChars, List.foldl_append, List.foldl_cons,
        List.foldl_nil, toNat_digitChar]
      simp
    rw [step, ih, Nat.pow_eq, Nat.pow_eq, Nat.pow_succ, Nat.mul_comm _ 10, Nat.mod_mul]
    omega

theorem isDigit_digitChar (n : Nat) : (digitChar n).isDigit = true := by
  have h : n % 10 < 10 := Nat.mod_lt _ (by decide)
  have all : ∀ d, d < 10 → (Char.ofNat (0x30 + d)).isDigit = true := by decide
  exact all _ h

theorem isDigit_of_mem_padded {width n : Nat} {c : Char} (h : c ∈ padded width n) :
    c.isDigit = true := by
  induction width generalizing n with
  | zero => cases h
  | succ w ih =>
    rcases List.mem_append.1 h with h | h
    · exact ih h
    · rw [List.mem_singleton.1 h]; exact isDigit_digitChar n

theorem exists_cons_padded {width : Nat} (h : 0 < width) (n : Nat) :
    ∃ c cs, padded width n = c :: cs ∧ c.isDigit = true := by
  cases hp : padded width n with
  | nil =>
    have := length_padded width n
    rw [hp] at this
    simp at this
    omega
  | cons c cs =>
    have hc : c ∈ padded width n := by rw [hp]; exact List.mem_cons_self
    exact ⟨c, cs, rfl, isDigit_of_mem_padded hc⟩

theorem isDigit_of_mem_paddedAtLeast {width n : Nat} {c : Char} (h : c ∈ paddedAtLeast width n) :
    c.isDigit = true := by
  unfold paddedAtLeast at h
  split at h
  · exact isDigit_of_mem_padded h
  · exact Nat.isDigit_of_mem_toDigits (by decide) (by decide) h

theorem digitsValue_paddedAtLeast (width n : Nat) : digitsValue (paddedAtLeast width n) = n := by
  unfold paddedAtLeast
  split
  · next h => rw [digitsValue_padded, Nat.mod_eq_of_lt h]
  · exact Nat.ofDigitChars_ten_toDigits

theorem length_paddedAtLeast_pos {width : Nat} (h : 0 < width) (n : Nat) :
    1 ≤ (paddedAtLeast width n).length := by
  unfold paddedAtLeast
  split
  · rwa [length_padded]
  · exact Nat.length_toDigits_pos

theorem spanDigits_append {limit : Nat} {ds rest : List Char} (hd : ∀ c ∈ ds, c.isDigit = true)
    (hl : ds.length ≤ limit) (hr : ds.length = limit ∨ ∀ c ∈ rest.head?, c.isDigit = false) :
    spanDigits limit (ds ++ rest) = (ds, rest) := by
  have hspan : ((ds ++ rest).take limit).takeWhile Char.isDigit = ds := by
    rw [List.take_append, List.take_of_length_le hl, List.takeWhile_append_of_pos hd]
    cases hk : limit - ds.length with
    | zero => simp
    | succ k =>
      rcases hr with hr | hr
      · omega
      · cases rest with
        | nil => simp
        | cons c cs => simp [hr c rfl]
  simp only [spanDigits, hspan, List.drop_left]

end ChatServer.Text

