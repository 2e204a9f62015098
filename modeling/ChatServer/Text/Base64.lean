/-!
# Base64 without padding

Bytes as letters of six bits each, three bytes to four letters. A text is read
only if it is what writing gives: no padding, no other letters, and no bits left
over.

* `decode?_encode`: reading what was written gives the bytes.
-/
namespace ChatServer.Text.Base64

/-- The letters for 62 and 63. -/
inductive Alphabet
  /-- `+` and `/`. -/
  | standard
  /-- `-` and `_`, for use in addresses. -/
  | url
deriving DecidableEq

def Alphabet.letter (a : Alphabet) (n : Nat) : Char :=
  if n < 26 then Char.ofNat (0x41 + n)
  else if n < 52 then Char.ofNat (0x61 + (n - 26))
  else if n < 62 then Char.ofNat (0x30 + (n - 52))
  else if n = 62 then (match a with | .standard => '+' | .url => '-')
  else (match a with | .standard => '/' | .url => '_')

def Alphabet.value? (a : Alphabet) (c : Char) : Option Nat :=
  let n := c.toNat
  if 0x41 ≤ n ∧ n ≤ 0x5A then some (n - 0x41)
  else if 0x61 ≤ n ∧ n ≤ 0x7A then some (n - 0x61 + 26)
  else if 0x30 ≤ n ∧ n ≤ 0x39 then some (n - 0x30 + 52)
  else if c = a.letter 62 then some 62
  else if c = a.letter 63 then some 63
  else none

def encode (a : Alphabet) : List UInt8 → List Char
  | [] => []
  | [x] => [a.letter (x.toNat / 4), a.letter (x.toNat % 4 * 16)]
  | [x, y] =>
    [a.letter (x.toNat / 4), a.letter (x.toNat % 4 * 16 + y.toNat / 16),
      a.letter (y.toNat % 16 * 4)]
  | x :: y :: z :: rest =>
    a.letter (x.toNat / 4) :: a.letter (x.toNat % 4 * 16 + y.toNat / 16) ::
      a.letter (y.toNat % 16 * 4 + z.toNat / 64) :: a.letter (z.toNat % 64) :: encode a rest

def decode? (a : Alphabet) : List Char → Option (List UInt8)
  | [] => some []
  | [_] => none
  | [c, d] => do
    let p ← a.value? c
    let q ← a.value? d
    if q % 16 = 0 then some [UInt8.ofNat (p * 4 + q / 16)] else none
  | [c, d, e] => do
    let p ← a.value? c
    let q ← a.value? d
    let r ← a.value? e
    if r % 4 = 0 then some [UInt8.ofNat (p * 4 + q / 16), UInt8.ofNat (q % 16 * 16 + r / 4)]
      else none
  | c :: d :: e :: f :: rest => do
    let p ← a.value? c
    let q ← a.value? d
    let r ← a.value? e
    let s ← a.value? f
    let bytes ← decode? a rest
    return UInt8.ofNat (p * 4 + q / 16) :: UInt8.ofNat (q % 16 * 16 + r / 4) ::
      UInt8.ofNat (r % 4 * 64 + s) :: bytes

theorem value?_letter (a : Alphabet) {n : Nat} (h : n < 64) : a.value? (a.letter n) = some n := by
  have all : ∀ n, n < 64 → ∀ a ∈ [Alphabet.standard, .url], a.value? (a.letter n) = some n := by
    decide
  exact all n h a (by cases a <;> decide)

theorem ofNat_eq {x : UInt8} {n : Nat} (h : n = x.toNat) : UInt8.ofNat n = x := by
  subst h; simp

theorem decode?_encode (a : Alphabet) (bs : List UInt8) : decode? a (encode a bs) = some bs := by
  fun_induction encode a bs with
  | case1 => rfl
  | case2 x =>
    have hx := x.toNat_lt
    have h : x.toNat % 4 * 16 % 16 = 0 := by omega
    simp only [decode?, value?_letter a (show x.toNat / 4 < 64 by omega),
      value?_letter a (show x.toNat % 4 * 16 < 64 by omega), bind, Option.bind_some, h, if_true]
    rw [ofNat_eq (show x.toNat / 4 * 4 + x.toNat % 4 * 16 / 16 = x.toNat by omega)]
  | case3 x y =>
    have hx := x.toNat_lt
    have hy := y.toNat_lt
    have h : y.toNat % 16 * 4 % 4 = 0 := by omega
    simp only [decode?, value?_letter a (show x.toNat / 4 < 64 by omega),
      value?_letter a (show x.toNat % 4 * 16 + y.toNat / 16 < 64 by omega),
      value?_letter a (show y.toNat % 16 * 4 < 64 by omega), bind, Option.bind_some, h, if_true]
    rw [ofNat_eq (show x.toNat / 4 * 4 + (x.toNat % 4 * 16 + y.toNat / 16) / 16 = x.toNat by omega),
      ofNat_eq (show (x.toNat % 4 * 16 + y.toNat / 16) % 16 * 16 + y.toNat % 16 * 4 / 4 = y.toNat
        by omega)]
  | case4 x y z rest ih =>
    have hx := x.toNat_lt
    have hy := y.toNat_lt
    have hz := z.toNat_lt
    simp only [decode?, value?_letter a (show x.toNat / 4 < 64 by omega),
      value?_letter a (show x.toNat % 4 * 16 + y.toNat / 16 < 64 by omega),
      value?_letter a (show y.toNat % 16 * 4 + z.toNat / 64 < 64 by omega),
      value?_letter a (show z.toNat % 64 < 64 by omega), ih, bind, Option.bind_some, pure]
    rw [ofNat_eq (show x.toNat / 4 * 4 + (x.toNat % 4 * 16 + y.toNat / 16) / 16 = x.toNat by omega),
      ofNat_eq (show (x.toNat % 4 * 16 + y.toNat / 16) % 16 * 16 +
        (y.toNat % 16 * 4 + z.toNat / 64) / 4 = y.toNat by omega),
      ofNat_eq (show (y.toNat % 16 * 4 + z.toNat / 64) % 4 * 64 + z.toNat % 64 = z.toNat by omega)]

end ChatServer.Text.Base64

