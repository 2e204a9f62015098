import ChatServer.Json.Lexeme
import ChatServer.Text.Utf8

/-!
# JSON text from bytes

Text that comes as bytes need not be UTF-8 throughout: a string that is only
passed over may hold any bytes. `ofBytes` gives characters that read in the same
way. A string that is not UTF-8 gets half a surrogate pair as its last escape,
so that it can be passed over; where it is to be kept, reading it fails behind
its end. Outside strings no byte above ASCII fits, and each becomes a character
that fits no better.

* `readString_spoiled`: no string with such an escape at its end can be kept.
-/
namespace ChatServer.Json

open ChatServer.Text

/-- The byte as a character of ASCII, or a mark that fits nowhere in JSON. -/
def asciiChar (b : UInt8) : Char := if b < 0x80 then Char.ofNat b.toNat else '\ufffd'

/-- The escape of half a surrogate pair. -/
def halfPair : List Char := ['\\', 'u', 'd', '8', '0', '0']

/-- The characters of the bytes between two quotes. -/
def insideChars (bytes : List UInt8) : List Char :=
  match Utf8.decode? bytes with
  | some s => s.toList
  | none => bytes.map asciiChar ++ halfPair

inductive ByteState
  | outside
  /-- Inside, with the bytes since the quote, last first; `escaped` after a
  backslash. -/
  | inside (escaped : Bool) (done : List UInt8)

/-- The characters of bytes from some state on. -/
def charsFrom : ByteState → List UInt8 → List Char
  | .outside, [] => []
  | .outside, b :: bs =>
    asciiChar b :: charsFrom (if b = 0x22 then .inside false [] else .outside) bs
  | .inside _ done, [] => insideChars done.reverse
  | .inside true done, b :: bs => charsFrom (.inside false (b :: done)) bs
  | .inside false done, b :: bs =>
    if b = 0x22 then insideChars done.reverse ++ '"' :: charsFrom .outside bs
    else charsFrom (.inside (b = 0x5C) (b :: done)) bs

def ofBytes (bytes : List UInt8) : String := String.ofList (charsFrom .outside bytes)

theorem readString_spoiled (done cs : List Char) :
    ∃ f, readStringFrom .plain done (halfPair ++ '"' :: cs) = .error f ∧ f.resume = cs :=
  ⟨⟨.malformed .unfinishedSurrogatePair, '"' :: cs, 1, cs⟩, rfl, rfl⟩

end ChatServer.Json

