import ChatServer.Json.Codec

/-!
# Keys in token headers

The header of a token may carry a key, which has no part in checking the token
but has to be well formed. A key is one of four kinds, each with fields of its
own, and has some fields that are the same for all kinds and may be left out.
-/
namespace ChatServer.Account.KeyRecord

open Json

def nameOf (names : List String) : Codec String := .choice (names.map fun n => (n, n)) id

def signingMethods : List String :=
  ["HS256", "HS384", "HS512", "ES256", "ES384", "RS256", "RS384", "RS512", "PS256",
    "PS384", "PS512",
    "EdDSA"]

/-- The methods that a key may be for. -/
def keyMethods : List String := signingMethods ++ ["RSA1_5", "RSA-OAEP", "RSA-OAEP-256"]

/-- A method that a key may be for. As an object with one member the name may
come with null or with an empty object. -/
def methodOf : Codec String :=
  { nameOf keyMethods with
    ofValue
      | .object [(name, .object [])] => (nameOf keyMethods).ofValue (.string name)
      | v => (nameOf keyMethods).ofValue v }

def curves : List String := ["P-256", "P-384", "P-521", "Ed25519"]

def commonFields :
    Fields [Option String, Option (List String), Option String, Option String, Option String,
      Option (List String), Option String, Option String] :=
  .cons ⟨"use", .named none, Codec.text.optional⟩ <|
  .cons ⟨"key_ops", .named none, Codec.text.list.optional⟩ <|
  .cons ⟨"alg", .named none, methodOf.optional⟩ <|
  .cons ⟨"kid", .named none, Codec.text.optional⟩ <|
  .cons ⟨"x5u", .named none, Codec.text.optional⟩ <|
  .cons ⟨"x5c", .named none, Codec.text.list.optional⟩ <|
  .cons ⟨"x5t", .named none, Codec.text.optional⟩ <|
  .cons ⟨"x5t#S256", .named none, Codec.text.optional⟩ .nil

/-- Points on a curve. -/
def curveFields : Fields [String, String, String, String] :=
  .cons ⟨"kty", .refused, nameOf ["EC"]⟩ <|
  .cons ⟨"crv", .refused, nameOf curves⟩ <|
  .cons ⟨"x", .refused, .text⟩ <| .cons ⟨"y", .refused, .text⟩ .nil

def modulusFields : Fields [String, String, String] :=
  .cons ⟨"kty", .refused, nameOf ["RSA"]⟩ <|
  .cons ⟨"n", .refused, .text⟩ <| .cons ⟨"e", .refused, .text⟩ .nil

def secretFields : Fields [String, String] :=
  .cons ⟨"kty", .refused, nameOf ["oct"]⟩ <| .cons ⟨"k", .refused, .text⟩ .nil

/-- Keys in octets on a curve. -/
def octetFields : Fields [String, String, String] :=
  .cons ⟨"kty", .refused, nameOf ["OKP"]⟩ <|
  .cons ⟨"crv", .refused, nameOf curves⟩ <| .cons ⟨"x", .refused, .text⟩ .nil

def has {ts : List Type} (fields : Fields ts) (v : Value) : Bool :=
  ((Codec.record "Key" fields).ofValue v).isOk

def isKey (v : Value) : Bool :=
  match v with
  | .object _ =>
    has commonFields v &&
      (has curveFields v || has modulusFields v || has secretFields v || has octetFields v)
  | _ => false

end ChatServer.Account.KeyRecord

