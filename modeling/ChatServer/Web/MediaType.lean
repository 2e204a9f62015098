/-!
# Media types

Whether a content type says that a body is JSON: the type `application` with the
subtype `json`, or with a suffix `+json`, in any case. Parameters may follow,
and have to be well formed.

* `isJson_plain`: the plain type is JSON.
-/
namespace ChatServer.Web.MediaType

/-- Characters of types, subtypes, names and values. -/
def isTokenChar (c : Char) : Bool :=
  c.isAlphanum || "!#$%&'*+-.^_|~".toList.contains c || c.toNat == 0x60

def isQuotedChar (c : Char) : Bool := 0x20 ≤ c.toNat && c.toNat < 0x7F

/-- What a reader of parameters expects next. -/
inductive Expect
  /-- A name; it is empty so far. -/
  | name
  /-- The rest of a name. -/
  | nameRest
  /-- A value, not begun. -/
  | value
  /-- The rest of a plain value. -/
  | valueRest
  /-- The rest of a quoted value, and whether it is empty so far; an empty one
  cannot end. -/
  | quoted (isEmpty : Bool)
  /-- A semicolon, or blanks before it. -/
  | separator

def areParameters : Expect → List Char → Bool
  | .name, [] => true
  | .name, c :: cs =>
    if c = ' ' then areParameters .name cs else isTokenChar c && areParameters .nameRest cs
  | .nameRest, [] => false
  | .nameRest, c :: cs =>
    if c = '=' then areParameters .value cs else isTokenChar c && areParameters .nameRest cs
  | .value, [] => true
  | .value, c :: cs =>
    if c = '"' then areParameters (.quoted true) cs
      else isTokenChar c && areParameters .valueRest cs
  | .valueRest, [] => true
  | .valueRest, c :: cs =>
    if c = ';' then areParameters .name cs else isTokenChar c && areParameters .valueRest cs
  | .quoted _, [] => false
  | .quoted isEmpty, c :: cs =>
    if c = '"' ∧ !isEmpty then areParameters .separator cs
    else isQuotedChar c && areParameters (.quoted false) cs
  | .separator, [] => true
  | .separator, c :: cs =>
    if c = ';' then areParameters .name cs else c = ' ' && areParameters .separator cs

/-- The subtype is JSON, or its suffix is. The last plus sign that is not the
first character stands before the suffix. -/
def isJsonSubtype (cs : List Char) : Bool :=
  let suffix := (cs.reverse.takeWhile (· ≠ '+')).reverse
  let stem := cs.take (cs.length - suffix.length - 1)
  if stem.isEmpty then cs = "json".toList else stem = "json".toList || suffix = "json".toList

def isJson (contentType : String) : Bool :=
  let cs := contentType.toList
  let (type, rest) := (cs.takeWhile (· ≠ '/'), (cs.dropWhile (· ≠ '/')).drop 1)
  let (subtype, tail) := (rest.takeWhile (· ≠ ';'), rest.dropWhile (· ≠ ';'))
  type.map Char.toLower = "application".toList && subtype.all isTokenChar &&
    isJsonSubtype (subtype.map Char.toLower) && areParameters .name (tail.drop 1)

theorem isJson_plain : isJson "application/json" = true := by decide +kernel

end ChatServer.Web.MediaType

