import ChatServer.Number.Shortest
import ChatServer.Text.Hex

/-!
# JSON values and their text

A JSON value and its compact text: no blanks, members in the order of the list,
and inside strings only the quote, the backslash and control characters escaped.
-/
namespace ChatServer.Json

open ChatServer.Number ChatServer.Text

/-- A number: whole, or in floating point. -/
inductive Numeral
  | integer (n : Int)
  | float (x : Binary64)
deriving DecidableEq

inductive Value
  | null
  | bool (b : Bool)
  | number (n : Numeral)
  | string (s : String)
  | array (items : List Value)
  | object (members : List (String × Value))

instance : Inhabited Value := ⟨.null⟩

/-- A control character by its number, in lower-case hexadecimal. -/
def controlEscape (c : Char) : List Char :=
  ['\\', 'u', '0', '0', Hex.digit ⟨c.toNat / 16 % 16, by omega⟩, Hex.digit ⟨c.toNat % 16, by omega⟩]

/-- How one character stands in a string. -/
def escapedChar (c : Char) : List Char :=
  if c = '"' then ['\\', '"']
  else if c = '\\' then ['\\', '\\']
  else if c = '\x08' then ['\\', 'b']
  else if c = '\x0C' then ['\\', 'f']
  else if c = '\n' then ['\\', 'n']
  else if c = '\r' then ['\\', 'r']
  else if c = '\t' then ['\\', 't']
  else if c.toNat < 0x20 then controlEscape c
  else [c]

/-- The characters between the quotes of a string. -/
def escaped (cs : List Char) : List Char := cs.flatMap escapedChar

def stringChars (s : String) : List Char := '"' :: escaped s.toList ++ ['"']

def Numeral.chars : Numeral → List Char
  | .integer n => if n < 0 then '-' :: Nat.toDigits 10 n.natAbs else Nat.toDigits 10 n.natAbs
  | .float x => x.text.toList

mutual

def Value.chars : Value → List Char
  | .null => ['n', 'u', 'l', 'l']
  | .bool true => ['t', 'r', 'u', 'e']
  | .bool false => ['f', 'a', 'l', 's', 'e']
  | .number n => n.chars
  | .string s => stringChars s
  | .array items => '[' :: Value.itemsChars items ++ [']']
  | .object members => '{' :: Value.membersChars members ++ ['}']

/-- Items with commas between them. -/
def Value.itemsChars : List Value → List Char
  | [] => []
  | [v] => v.chars
  | v :: w :: rest => v.chars ++ ',' :: Value.itemsChars (w :: rest)

/-- Members with commas between them. -/
def Value.membersChars : List (String × Value) → List Char
  | [] => []
  | [(k, v)] => stringChars k ++ ':' :: v.chars
  | (k, v) :: m :: rest => stringChars k ++ ':' :: v.chars ++ ',' :: Value.membersChars (m :: rest)

end

def Value.text (v : Value) : String := String.ofList v.chars

/-- Sets the member of a key, where members are sorted by key. -/
def insertMember (key : String) (v : Value) : List (String × Value) → List (String × Value)
  | [] => [(key, v)]
  | (k, w) :: rest =>
    if key = k then (k, v) :: rest
    else if key < k then (key, v) :: (k, w) :: rest
    else (k, w) :: insertMember key v rest

end ChatServer.Json

