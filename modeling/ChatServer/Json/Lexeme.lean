import ChatServer.Json.Failure
import ChatServer.Text.Hex

/-!
# Words of JSON text

Blanks, literals, strings and numbers, each read from the front of a text.
Readers give what they read with what follows, or a failure with its place.

* `skipBlanks_of_not_blank`: blanks are dropped only where there are some.
* `readPlain_escaped`: the written form of a string reads back as that string.
-/
namespace ChatServer.Json

open ChatServer.Number ChatServer.Text

/-- Space, tab, line feed or carriage return. -/
def isBlank (c : Char) : Bool := c == ' ' || c == '\t' || c == '\n' || c == '\r'

def skipBlanks (cs : List Char) : List Char := cs.dropWhile isBlank

/-- Reads the rest of a literal. -/
def readLiteral : List Char → List Char → Except Failure (List Char)
  | [], cs => .ok cs
  | _ :: _, [] => failHere .endInValue []
  | e :: es, c :: cs => if c = e then readLiteral es cs else failNext .expectedLiteral (c :: cs)

/-! ## Strings -/

/-- Where the reading of a string stands between two characters. -/
inductive StringState
  /-- Between characters of the string. -/
  | plain
  /-- After a backslash. -/
  | escape
  /-- Within the four digits of a `\u` escape; `high` is a surrogate read before
  it. -/
  | digits (high : Option Nat) (left value : Nat)
  /-- After a high surrogate, where a backslash is due. -/
  | pairEscape (high : Nat)
  /-- After a high surrogate and a backslash, where the letter `u` is due. -/
  | pairLetter (high : Nat)

/-- The character that a letter after a backslash stands for. -/
def escapeLetter? (c : Char) : Option Char :=
  if c = '"' ∨ c = '\\' ∨ c = '/' then some c
  else if c = 'b' then some '\x08'
  else if c = 'f' then some '\x0C'
  else if c = 'n' then some '\n'
  else if c = 'r' then some '\r'
  else if c = 't' then some '\t'
  else none

/-- A UTF-16 unit that comes first in a pair. -/
def isHighSurrogate (n : Nat) : Bool := 0xD800 ≤ n && n ≤ 0xDBFF

/-- A UTF-16 unit that comes second in a pair. -/
def isLowSurrogate (n : Nat) : Bool := 0xDC00 ≤ n && n ≤ 0xDFFF

/-- The character of a surrogate pair. -/
def pairChar (high low : Nat) : Char :=
  Char.ofNat ((high - 0xD800) * 0x400 + (low - 0xDC00) + 0x10000)

/-- What a finished `\u` escape leads to: a character of the string, or a state
that waits for the second half of a pair. -/
def finishUnit (high : Option Nat) (unit : Nat) (rest : List Char) :
    Except Failure (Option Char × StringState) :=
  match high with
  | none =>
    if isLowSurrogate unit then failHere .loneSurrogate rest
    else if isHighSurrogate unit then .ok (none, .pairEscape unit)
    else .ok (some (Char.ofNat unit), .plain)
  | some h =>
    if isLowSurrogate unit then .ok (some (pairChar h unit), .plain)
    else failHere .loneSurrogate rest

/-- A character that is no hexadecimal digit where `left` bytes of digits are
due. -/
def failDigit {α : Type} (left : Nat) (cs : List Char) : Except Failure α :=
  if Utf8.byteLength cs < left then failHere .endInString []
  else .error ⟨.malformed .invalidEscape, cs, left, cs⟩

/-- Reads a string from behind its first quote. `done` holds the characters
read, last first. -/
def readStringFrom : StringState → List Char → List Char → Except Failure (String × List Char)
  | _, _, [] => failHere .endInString []
  | .plain, done, c :: cs =>
    if c = '"' then .ok (String.ofList done.reverse, cs)
    else if c = '\\' then readStringFrom .escape done cs
    else if c.toNat < 0x20 then failHere .controlCharacter cs
    else readStringFrom .plain (c :: done) cs
  | .escape, done, c :: cs =>
    if c = 'u' then readStringFrom (.digits none 4 0) done cs
    else
      match escapeLetter? c with
      | some e => readStringFrom .plain (e :: done) cs
      | none => failNext .invalidEscape (c :: cs)
  | .digits high left value, done, c :: cs =>
    match Hex.value? c with
    | none => failDigit left (c :: cs)
    | some d =>
      let value := value * 16 + d.val
      if left ≤ 1 then
        match finishUnit high value cs with
        | .error f => .error f
        | .ok (some ch, state) => readStringFrom state (ch :: done) cs
        | .ok (none, state) => readStringFrom state done cs
      else readStringFrom (.digits high (left - 1) value) done cs
  | .pairEscape high, done, c :: cs =>
    if c = '\\' then readStringFrom (.pairLetter high) done cs
    else failBehind .unfinishedSurrogatePair (c :: cs)
  | .pairLetter high, done, c :: cs =>
    if c = 'u' then readStringFrom (.digits (some high) 4 0) done cs
    else failBehind .unfinishedSurrogatePair (c :: cs)

def readString (cs : List Char) : Except Failure (String × List Char) := readStringFrom .plain [] cs

/-- Passes over a string of which nothing is kept: escapes need their form
only. -/
def skipStringFrom : StringState → List Char → Except Failure (List Char)
  | _, [] => failHere .endInString []
  | .escape, c :: cs =>
    if c = 'u' then skipStringFrom (.digits none 4 0) cs
    else if (escapeLetter? c).isSome then skipStringFrom .plain cs
    else failNext .invalidEscape (c :: cs)
  | .digits high left value, c :: cs =>
    match Hex.value? c with
    | none => failDigit left (c :: cs)
    | some _ =>
      if left ≤ 1 then skipStringFrom .plain cs
      else skipStringFrom (.digits high (left - 1) value) cs
  | _, c :: cs =>
    if c = '"' then .ok cs
    else if c = '\\' then skipStringFrom .escape cs
    else if c.toNat < 0x20 then failHere .controlCharacter (c :: cs)
    else skipStringFrom .plain cs

/-- Passes over a string from behind its first quote. -/
def skipString (cs : List Char) : Except Failure (List Char) := skipStringFrom .plain cs

/-! ## Numbers -/

/-- The digits at the front of a text, and what follows. -/
def spanAllDigits (cs : List Char) : List Char × List Char := cs.span Char.isDigit

/-- The greatest significand that is kept exactly. -/
def significandLimit : Nat := 0xffffffffffffffff

/-- The greatest exponent that is kept exactly. -/
def exponentLimit : Nat := 0x7fffffff

/-- Takes digits into a number as long as it stays within a limit; gives the
number and the digits left over. -/
def takeDigits (limit : Nat) : Nat → List Char → Nat × List Char
  | n, [] => (n, [])
  | n, d :: ds =>
    let m := n * 10 + (d.toNat - 0x30)
    if m ≤ limit then takeDigits limit m ds else (n, d :: ds)

/-- The greatest power of ten that is a number of 64-bit floating point. -/
def greatestPower : Nat := 308

/-- A positive number times ten to an exponent, rounded at each step; `none`
when it is too large. Steps of `10 ^ -308` bring a low exponent into range;
after two of them every significand is zero. -/
def timesPower : Nat → Binary64 → Int → Option Binary64
  | 0, x, _ => some x
  | steps + 1, x, exponent =>
    if exponent.natAbs ≤ greatestPower then
      match Binary64.ofRatio? (Nat.pow 10 exponent.natAbs) 1 with
      | none => none
      | some power => if 0 ≤ exponent then x.mul? power else x.div? power
    else if x.mantissa = 0 then some x
    else if 0 ≤ exponent then none
    else
      match Binary64.ofRatio? (Nat.pow 10 greatestPower) 1 with
      | none => none
      | some power => (x.div? power).bind fun y => timesPower steps y (exponent + greatestPower)

/-- The floating-point number of a significand and a decimal exponent. -/
def floatOf (negative : Bool) (significand : Nat) (exponent : Int) (rest : List Char) :
    Except Failure (Numeral × List Char) :=
  match (Binary64.ofRatio? significand 1).bind fun x => timesPower 4 x exponent with
  | none => failHere .numberOutOfRange rest
  | some x => .ok (.float { x with negative := negative }, rest)

/-- Reads an exponent from behind its letter. One that is too large fails behind
the digit at which it becomes so. -/
def readExponent (negative : Bool) (significand : Nat) (exponent : Int) (cs : List Char) :
    Except Failure (Numeral × List Char) :=
  let (down, cs) :=
    match cs with
    | '+' :: r => (false, r)
    | '-' :: r => (true, r)
    | r => (false, r)
  let (ds, rest) := spanAllDigits cs
  if ds.isEmpty then
    if rest.isEmpty then failHere .endInValue [] else failNext .invalidNumber rest
  else
    let (power, left) := takeDigits exponentLimit 0 ds
    if left.isEmpty then
      floatOf negative significand (if down then exponent - power else exponent + power) rest
    else if significand ≠ 0 ∧ !down then failHere .numberOutOfRange (left.drop 1 ++ rest)
    else .ok (.float (Binary64.zero negative), rest)

/-- Reads a fraction from behind its point. -/
def readFraction (negative : Bool) (significand : Nat) (exponent : Int) (cs : List Char) :
    Except Failure (Numeral × List Char) :=
  let (ds, rest) := spanAllDigits cs
  if ds.isEmpty then
    if rest.isEmpty then failNext .endInValue [] else failNext .invalidNumber rest
  else
    let (significand, left) := takeDigits significandLimit significand ds
    let exponent := exponent - ((ds.length - left.length : Nat) : Int)
    match rest with
    | 'e' :: r => readExponent negative significand exponent r
    | 'E' :: r => readExponent negative significand exponent r
    | r => floatOf negative significand exponent r

/-- The number of an integer text: whole where it fits 64 bits, with the sign
bit where there is a sign. Minus zero is a floating-point number. -/
def wholeNumber (negative : Bool) (n : Nat) (rest : List Char) :
    Except Failure (Numeral × List Char) :=
  if !negative then .ok (.integer n, rest)
  else if n = 0 ∨ 0x8000000000000000 < n then floatOf true n 0 rest
  else .ok (.integer (-(n : Int)), rest)

/-- Reads a number from behind its sign. -/
def readNumber (negative : Bool) (cs : List Char) : Except Failure (Numeral × List Char) :=
  let (ds, rest) := spanAllDigits cs
  match ds with
  | [] => if rest.isEmpty then failHere .endInValue [] else failNext .invalidNumber rest
  | '0' :: d :: more => failNext .invalidNumber (d :: more ++ rest)
  | ds =>
    let (significand, left) := takeDigits significandLimit 0 ds
    let exponent : Int := left.length
    match rest with
    | '.' :: r => readFraction negative significand exponent r
    | 'e' :: r => readExponent negative significand exponent r
    | 'E' :: r => readExponent negative significand exponent r
    | r =>
      if left.isEmpty then wholeNumber negative significand r
      else floatOf negative significand exponent r

def skipExponent (cs : List Char) : Except Failure (List Char) :=
  let cs :=
    match cs with
    | '+' :: r => r
    | '-' :: r => r
    | r => r
  let (ds, rest) := spanAllDigits cs
  if ds.isEmpty then failNext .invalidNumber rest else .ok rest

/-- Passes over a number from behind its sign: its form only. -/
def skipNumber (cs : List Char) : Except Failure (List Char) :=
  let (ds, rest) := spanAllDigits cs
  match ds with
  | [] => failNext .invalidNumber rest
  | '0' :: d :: more => failNext .invalidNumber (d :: more ++ rest)
  | _ =>
    match rest with
    | '.' :: r =>
      let (fs, r) := spanAllDigits r
      if fs.isEmpty then failNext .invalidNumber r
      else
        match r with
        | 'e' :: r => skipExponent r
        | 'E' :: r => skipExponent r
        | r => .ok r
    | 'e' :: r => skipExponent r
    | 'E' :: r => skipExponent r
    | r => .ok r

/-! ## Laws -/

theorem skipBlanks_of_not_blank {c : Char} (h : isBlank c = false) (cs : List Char) :
    skipBlanks (c :: cs) = c :: cs := by
  simp [skipBlanks, h]

theorem readPlain_escapedChar (c : Char) (done cs : List Char) :
    readStringFrom .plain done (escapedChar c ++ cs) = readStringFrom .plain (c :: done) cs := by
  unfold escapedChar
  split
  · rename_i h; subst h; simp [readStringFrom, escapeLetter?]
  split
  · rename_i h; subst h; simp [readStringFrom, escapeLetter?]
  split
  · rename_i h; subst h; simp [readStringFrom, escapeLetter?]
  split
  · rename_i h; subst h; simp [readStringFrom, escapeLetter?]
  split
  · rename_i h; subst h; simp [readStringFrom, escapeLetter?]
  split
  · rename_i h; subst h; simp [readStringFrom, escapeLetter?]
  split
  · rename_i h; subst h; simp [readStringFrom, escapeLetter?]
  split
  · rename_i hlt
    have hc : c = Char.ofNat c.toNat := (Char.ofNat_toNat c).symm
    have hz : Hex.value? '0' = some 0 := by decide
    have hu : (c.toNat / 16) % 16 * 16 + c.toNat % 16 = c.toNat := by omega
    have hl : isLowSurrogate c.toNat = false := by simp [isLowSurrogate]; omega
    have hh : isHighSurrogate c.toNat = false := by simp [isHighSurrogate]; omega
    simp [controlEscape, readStringFrom, hz, Hex.value?_digit, finishUnit, hu, hl, hh, ← hc]
  · rename_i hq hs _ _ _ _ _ hlt
    simp [readStringFrom, hq, hs, hlt]

theorem readPlain_escaped (s done cs : List Char) :
    readStringFrom .plain done (escaped s ++ cs) =
      readStringFrom .plain (s.reverse ++ done) cs := by
  induction s generalizing done with
  | nil => rfl
  | cons c s ih =>
    have : escaped (c :: s) = escapedChar c ++ escaped s := by simp [escaped]
    rw [this, List.append_assoc, readPlain_escapedChar, ih]
    simp

theorem readString_escaped (s : String) (cs : List Char) :
    readString (escaped s.toList ++ '"' :: cs) = .ok (s, cs) := by
  rw [readString, readPlain_escaped]
  simp [readStringFrom]

end ChatServer.Json

