import ChatServer.Text.Hex

/-!
# Identifiers

A UUID is its 32 hexadecimal digits. It is written in one form, lower case with
hyphens, and read in several: 32 digits, the hyphenated form, that form in
braces, or behind `urn:uuid:`. Digits and the `urn:uuid:` mark may be in either
case.

* `parse?_text`: reading the written form gives the identifier.
* `text_injective`: two identifiers with the same written form are the same.
-/
namespace ChatServer

open Text

structure Uuid where
  digits : List (Fin 16)
  length_digits : digits.length = 32
deriving DecidableEq

namespace Uuid

/-- Sets hyphens after the 8th, 12th, 16th and 20th of 32 characters. -/
def hyphenate (cs : List Char) : List Char :=
  cs.take 8 ++ '-' :: (cs.drop 8).take 4 ++ '-' :: (cs.drop 12).take 4 ++
    '-' :: (cs.drop 16).take 4 ++ '-' :: cs.drop 20

/-- The characters without those at the places of hyphens. -/
def dropHyphens (cs : List Char) : List Char :=
  cs.take 8 ++ (cs.drop 9).take 4 ++ (cs.drop 14).take 4 ++ (cs.drop 19).take 4 ++ cs.drop 24

/-- The digits of the characters, if all are digits. -/
def digits? : List Char → Option (List (Fin 16))
  | [] => some []
  | c :: cs => do
    let d ← Hex.value? c
    let ds ← digits? cs
    return d :: ds

def ofPlain? (cs : List Char) : Option Uuid := do
  let ds ← digits? cs
  if h : ds.length = 32 then some ⟨ds, h⟩ else none

def ofHyphenated? (cs : List Char) : Option Uuid :=
  if hyphenate (dropHyphens cs) = cs then ofPlain? (dropHyphens cs) else none

def urnMark : List Char := ['u', 'r', 'n', ':', 'u', 'u', 'i', 'd', ':']

def unbraced? (cs : List Char) : Option (List Char) :=
  if cs.head? = some '{' ∧ cs.getLast? = some '}' ∧ 2 ≤ cs.length then some cs.tail.dropLast
    else none

def afterUrnMark? (cs : List Char) : Option (List Char) :=
  if (cs.take 9).map Char.toLower = urnMark then some (cs.drop 9) else none

/-- Reads any of the forms. -/
def parse? (s : String) : Option Uuid :=
  let cs := s.toList
  ofPlain? cs <|> ofHyphenated? cs <|> (unbraced? cs >>= ofHyphenated?) <|>
    (afterUrnMark? cs >>= ofHyphenated?)

/-- The written form. -/
def chars (id : Uuid) : List Char := hyphenate (id.digits.map Hex.digit)

def text (id : Uuid) : String := String.ofList id.chars

/-- The identifier whose digits are those of the number, cut to 128 bits. -/
def ofNat (n : Nat) : Uuid :=
  ⟨(List.range 32).map fun i => Fin.ofNat 16 (n >>> (4 * (31 - i))), by simp⟩

theorem digits?_map_digit (ds : List (Fin 16)) : digits? (ds.map Hex.digit) = some ds := by
  induction ds with
  | nil => rfl
  | cons d ds ih => simp [digits?, Hex.value?_digit, ih]

theorem dropHyphens_hyphenate {cs : List Char} (h : cs.length = 32) :
    dropHyphens (hyphenate cs) = cs := by
  obtain ⟨a, rest, rfl, ha⟩ : ∃ a rest, cs = a ++ rest ∧ a.length = 8 :=
    ⟨cs.take 8, cs.drop 8, (List.take_append_drop 8 cs).symm, by simp [h]⟩
  obtain ⟨b, rest, rfl, hb⟩ : ∃ b r, rest = b ++ r ∧ b.length = 4 :=
    ⟨rest.take 4, rest.drop 4, (List.take_append_drop 4 rest).symm, by
      simp at h; simp; omega⟩
  obtain ⟨c, rest, rfl, hc⟩ : ∃ b r, rest = b ++ r ∧ b.length = 4 :=
    ⟨rest.take 4, rest.drop 4, (List.take_append_drop 4 rest).symm, by
      simp at h; simp; omega⟩
  obtain ⟨d, rest, rfl, hd⟩ : ∃ b r, rest = b ++ r ∧ b.length = 4 :=
    ⟨rest.take 4, rest.drop 4, (List.take_append_drop 4 rest).symm, by
      simp at h; simp; omega⟩
  simp [dropHyphens, hyphenate, List.drop_append, List.drop_eq_nil_of_le, ha, hb, hc, hd]

theorem ofPlain?_chars_none {cs : List Char} (h : '-' ∈ cs) : digits? cs = none := by
  induction cs with
  | nil => cases h
  | cons c cs ih =>
    rcases List.mem_cons.1 h with rfl | h
    · rfl
    · simp [digits?, ih h]

theorem parse?_text (id : Uuid) : parse? id.text = some id := by
  have hlen : (id.digits.map Hex.digit).length = 32 := by simp [id.length_digits]
  have hplain : ofPlain? id.chars = none := by
    have : digits? id.chars = none := ofPlain?_chars_none (by simp [chars, hyphenate])
    simp [ofPlain?, this]
  have hhyph : ofHyphenated? id.chars = some id := by
    unfold ofHyphenated?
    have hd : dropHyphens id.chars = id.digits.map Hex.digit := dropHyphens_hyphenate hlen
    rw [hd, if_pos (show hyphenate (id.digits.map Hex.digit) = id.chars from rfl)]
    simp [ofPlain?, digits?_map_digit, id.length_digits]
  simp [parse?, text, hplain, hhyph]

theorem text_injective {a b : Uuid} (h : a.text = b.text) : a = b := by
  have ha := parse?_text a
  rw [h, parse?_text b] at ha
  exact (Option.some.inj ha).symm

@[simp] theorem text_beq (a b : Uuid) : (a.text == b.text) = (a == b) := by
  rw [Bool.eq_iff_iff, beq_iff_eq, beq_iff_eq]
  exact ⟨text_injective, congrArg text⟩

end Uuid
end ChatServer

