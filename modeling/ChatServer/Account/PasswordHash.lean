import ChatServer.Crypto.Argon2
import ChatServer.Text.Base64
import ChatServer.Text.Integer
import ChatServer.Text.Utf8

/-!
# Hashed passwords

The text that stands for a password in the store: fields with a dollar sign
before each, namely the name of the method, perhaps a version, perhaps
parameters, and then salt and hash where there are any. A text of this form fits
a password if it names a variant of Argon2 with settings that are within bounds,
and the password hashed with its salt and in its settings gives its hash.
-/
namespace ChatServer.Account

open Crypto Text

structure PasswordHash where
  method : List Char
  version : Option Nat
  /-- Names with their values. -/
  parameters : List (List Char × List Char)
  salt : Option (List Char)
  output : Option (List UInt8)

namespace PasswordHash

/-! ## Fields -/

def isNameChar (c : Char) : Bool := c.isLower || c.isDigit || c == '-'

def isValueChar (c : Char) : Bool :=
  c.isAlphanum || c == '/' || c == '+' || c == '.' || c == '-'

/-- A name of 1 to 32 letters. -/
def isName (cs : List Char) : Bool := cs.all isNameChar && 1 ≤ cs.length && cs.length ≤ 32

def isValue (cs : List Char) : Bool := cs.all isValueChar && cs.length ≤ 64

/-- A salt of 4 to 64 letters. -/
def isSalt (cs : List Char) : Bool := isValue cs && 4 ≤ cs.length

/-- A hash of 10 to 64 bytes in Base64. -/
def output? (cs : List Char) : Option (List UInt8) :=
  (Base64.decode? .standard cs).filter fun bytes => 10 ≤ bytes.length && bytes.length ≤ 64

/-- A number of 32 bits without zeros in front. -/
def number? (cs : List Char) : Option Nat :=
  if isValue cs && (cs.length == 1 || cs.head? != some '0') && cs.all Char.isDigit then
    (Integer.read (.unsigned 32) cs).toOption.map Int.toNat
  else none

def splitAt (mark : Char) : List Char → List (List Char)
  | [] => [[]]
  | c :: cs =>
    match splitAt mark cs with
    | [] => [[c]]
    | field :: rest => if c = mark then [] :: field :: rest else (c :: field) :: rest

/-- A parameter: a name, an equals sign and a value. -/
def parameter? (cs : List Char) : Option (List Char × List Char) :=
  match splitAt '=' cs with
  | [name, value] => if isName name && isValue value then some (name, value) else none
  | _ => none

/-- Parameters with commas between them. -/
def parameters? (cs : List Char) : Option (List (List Char × List Char)) :=
  if cs.length ≤ 127 then (splitAt ',' cs).mapM parameter? else none

/-! ## Reading -/

/-- Reads what may follow the parameters: a salt, and a hash behind it. -/
def readTail? (h : PasswordHash) : List (List Char) → Option PasswordHash
  | [] => some h
  | [salt] => if isSalt salt then some { h with salt := some salt } else none
  | [salt, output] =>
    if isSalt salt then
      (output? output).map fun bytes => { h with salt := some salt, output := some bytes }
    else none
  | _ => none

/-- Reads what may follow the version. -/
def readAfterVersion? (h : PasswordHash) : List (List Char) → Option PasswordHash
  | [] => some h
  | field :: rest =>
    if '=' ∈ field then do
      let parameters ← parameters? field
      readTail? { h with parameters } rest
    else readTail? h (field :: rest)

/-- Reads what may follow the method. -/
def readAfterMethod? (h : PasswordHash) : List (List Char) → Option PasswordHash
  | [] => some h
  | field :: rest =>
    if field.take 2 = ['v', '='] ∧ ',' ∉ field then do
      let version ← number? (field.drop 2)
      readAfterVersion? { h with version := some version } rest
    else readAfterVersion? h (field :: rest)

def read? (s : String) : Option PasswordHash :=
  match splitAt '$' s.toList with
  | [] :: method :: rest =>
    if isName method then readAfterMethod? ⟨method, none, [], none, none⟩ rest else none
  | _ => none

/-! ## Fitting -/

def variant? (method : List Char) : Option Argon2.Variant :=
  if method = "argon2d".toList then some .dataDependent
  else if method = "argon2i".toList then some .dataIndependent
  else if method = "argon2id".toList then some .hybrid
  else none

def version? : Option Nat → Option Argon2.Version
  | none => some .mixing
  | some n => [Argon2.Version.replacing, .mixing].find? (·.code == n)

/-- Bytes in Base64, at most so many. -/
def bytes? (most : Nat) (cs : List Char) : Option (List UInt8) :=
  (Base64.decode? .standard cs).filter fun bytes => bytes.length ≤ most

/-- Settings with a parameter. The name of a key does not change them, but must
be one. -/
def withParameter? (s : Argon2.Settings) (p : List Char × List Char) : Option Argon2.Settings :=
  if p.1 = ['m'] then (number? p.2).map fun memory => { s with memory }
  else if p.1 = ['t'] then (number? p.2).map fun passes => { s with passes }
  else if p.1 = ['p'] then (number? p.2).map fun lanes => { s with lanes }
  else if p.1 = "keyid".toList then (bytes? 8 p.2).map fun _ => s
  else if p.1 = "data".toList then (bytes? 32 p.2).map fun data => { s with data }
  else none

/-- Settings within bounds: every lane has 8 blocks at least. -/
def areAllowed (s : Argon2.Settings) : Bool :=
  1 ≤ s.passes && 1 ≤ s.lanes && s.lanes ≤ 0xffffff && 8 * s.lanes ≤ s.memory

/-- The settings that a hashed password names. Where it names none, 19 mebibytes
are passed through twice in one lane. -/
def settings? (h : PasswordHash) : Option Argon2.Settings := do
  let variant ← variant? h.method
  let version ← version? h.version
  let s ← h.parameters.foldlM withParameter? ⟨variant, version, 19456, 2, 1, [], []⟩
  if areAllowed s then some s else none

/-- A salt of 8 bytes at least. -/
def saltBytes? (cs : List Char) : Option (List UInt8) :=
  (Base64.decode? .standard cs).filter fun bytes => 8 ≤ bytes.length

def fits (h : PasswordHash) (password : String) : Bool :=
  match h.settings?, h.salt.bind saltBytes?, h.output with
  | some s, some salt, some output =>
    Argon2.tag s output.length (Utf8.encode password) salt == output
  | _, _, _ => false

end PasswordHash
end ChatServer.Account

