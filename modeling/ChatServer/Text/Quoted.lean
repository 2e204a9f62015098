import ChatServer.Text.Unprinted

/-!
# Quoted text

The form in which a text is shown inside a message: between double quotes, with
the quote, the backslash and unprinted characters escaped, so that an empty or
odd text is still visible.
-/
namespace ChatServer.Text

/-- How one character stands inside quotes. -/
def quotedChar (c : Char) : List Char :=
  if c = '"' then ['\\', '"']
  else if c = '\\' then ['\\', '\\']
  else if c = '\t' then ['\\', 't']
  else if c = '\n' then ['\\', 'n']
  else if c = '\r' then ['\\', 'r']
  else if c.toNat = 0 then ['\\', '0']
  else if isUnprinted c then ['\\', 'u', '{'] ++ Nat.toDigits 16 c.toNat ++ ['}']
  else [c]

/-- The characters between the quotes. -/
def quotedBody (cs : List Char) : List Char := cs.flatMap quotedChar

def quoted (s : String) : String := String.ofList ('"' :: quotedBody s.toList ++ ['"'])

end ChatServer.Text

