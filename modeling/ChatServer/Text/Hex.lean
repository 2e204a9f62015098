/-!
# Hexadecimal digits

Digits of base sixteen: their values, their lower-case characters, and byte
strings written with two digits for each byte.

* `value?_digit`: a digit's character has that digit as its value.
* `bytes?_encode`: reading back written bytes gives the bytes.
-/
namespace ChatServer.Text.Hex

/-- The value of a digit, in either case of letter. -/
def value? (c : Char) : Option (Fin 16) :=
  let n := c.toNat
  if h : 0x30 ≤ n ∧ n ≤ 0x39 then some ⟨n - 0x30, by omega⟩
  else if h : 0x41 ≤ n ∧ n ≤ 0x46 then some ⟨n - 0x37, by omega⟩
  else if h : 0x61 ≤ n ∧ n ≤ 0x66 then some ⟨n - 0x57, by omega⟩
  else none

def digit (d : Fin 16) : Char :=
  if d.val < 10 then Char.ofNat (0x30 + d.val) else Char.ofNat (0x57 + d.val)

def byte (high low : Fin 16) : UInt8 := UInt8.ofNat (high.val * 16 + low.val)

/-- Two digits for each byte. -/
def encode (bytes : List UInt8) : List Char :=
  bytes.flatMap fun b => [digit ⟨b.toNat / 16 % 16, by omega⟩, digit ⟨b.toNat % 16, by omega⟩]

/-- The bytes written by pairs of digits; `none` when a character is no digit or
one is left over. -/
def bytes? : List Char → Option (List UInt8)
  | [] => some []
  | [_] => none
  | h :: l :: rest => do
    let high ← value? h
    let low ← value? l
    let tail ← bytes? rest
    return byte high low :: tail

theorem value?_digit (d : Fin 16) : value? (digit d) = some d := by
  revert d; decide

theorem byte_digits (b : UInt8) :
    byte ⟨b.toNat / 16 % 16, by omega⟩ ⟨b.toNat % 16, by omega⟩ = b := by
  have hb : b.toNat < 256 := b.toNat_lt
  have : b.toNat / 16 % 16 * 16 + b.toNat % 16 = b.toNat := by omega
  simp [byte, this]

theorem bytes?_encode (bytes : List UInt8) : bytes? (encode bytes) = some bytes := by
  induction bytes with
  | nil => rfl
  | cons b bs ih =>
    have hcons : encode (b :: bs) = digit ⟨b.toNat / 16 % 16, by omega⟩ ::
        digit ⟨b.toNat % 16, by omega⟩ :: encode bs := rfl
    rw [hcons, bytes?, value?_digit, value?_digit, ih]
    simp [byte_digits]

end ChatServer.Text.Hex

