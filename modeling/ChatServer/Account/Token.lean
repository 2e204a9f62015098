import ChatServer.Account.KeyRecord
import ChatServer.Account.Records
import ChatServer.Crypto.Hmac
import ChatServer.Json.Bytes
import ChatServer.Model.User
import ChatServer.Text.Base64
import ChatServer.Text.Utf8

/-!
# Tokens

A token is three parts with points between them, each in Base64: a header that
names the signing method, the claims, and the signature of the two under the
server's secret. `issue` makes tokens and `check` reads them; a token holds for
a minute longer than it says, so that clocks may differ.

* `check_empty`: an empty text is no token.
* `expiryWord_of_nonneg`: a time from 1970 on is written as it is.
-/
namespace ChatServer.Account

open Json Text Time

inductive TokenFault
  /-- The text does not have three parts. -/
  | shape
  | base64
  | json
  /-- The header names another signing method. -/
  | algorithm
  | signature
  | expired
  /-- The token is meant for someone. -/
  | audience
deriving DecidableEq

def TokenFault.message : TokenFault → String
  | shape => "InvalidToken"
  | base64 => "Base64 error"
  | json => "JSON error"
  | algorithm => "InvalidAlgorithm"
  | signature => "InvalidSignature"
  | expired => "ExpiredSignature"
  | audience => "InvalidAudience"

/-- Why no token can be issued. -/
inductive TimeOverflow
  /-- The end of the token's life is too far away to be held as a time. -/
  | tooFar
deriving DecidableEq

def TimeOverflow.message : TimeOverflow → String
  | tooFar => "`DateTime + TimeDelta` overflowed"

namespace Token

/-! ## Parts -/

/-- A part as it stands in a token. -/
def part (s : String) : String := String.ofList (Base64.encode .url (Utf8.encode s))

/-- The JSON text of a part. -/
def partText (s : List Char) : Except TokenFault String :=
  match Base64.decode? .url s with
  | none => .error .base64
  | some bytes => .ok (ofBytes bytes)

def readPart {α : Type} (c : Codec α) (text : String) : Except TokenFault α :=
  (c.parse text).mapError fun _ => .json

/-- The signature of a text. -/
def signature (secret : String) (text : List Char) : List Char :=
  Base64.encode .url (Crypto.hmac (Utf8.encode secret) (Utf8.encode (String.ofList text)))

/-! ## Issuing -/

/-- The header of the tokens that this server issues. -/
def header : String := "\x7b\"typ\":\"JWT\",\"alg\":\"HS256\"\x7d"

/-- A time in seconds as the word that claims hold. Times before 1970 wrap
around to words far in the future. -/
def expiryWord (seconds : Int) : Nat := (seconds % (wordLimit + 1 : Nat)).toNat

def sign (secret : String) (claims : Claims) : String :=
  let text := part header ++ "." ++ part (Claims.codec.write claims)
  text ++ "." ++ String.ofList (signature secret text.toList)

/-- The token of a user that holds for some seconds; there is none when its end
is out of the range of dates. Nothing asks for the number of seconds to be
positive. -/
def issue (secret : String) (owner : Identity) (seconds : Int) (now : Instant) :
    Except TimeOverflow String :=
  match now.secondsAfter? seconds with
  | none => .error .tooFar
  | some expiry => .ok (sign secret ⟨owner.userId, owner.email, expiryWord expiry⟩)

/-! ## Checking -/

/-- The fields of a header; of these only the signing method is used. -/
def headerFields :
    Fields [Option String, String, Option String, Option String, Option Value, Option String,
      Option String,
      Option (List String), Option String, Option String] :=
  .cons ⟨"typ", .named none, Codec.text.optional⟩ <|
  .cons ⟨"alg", .refused, KeyRecord.nameOf KeyRecord.signingMethods⟩ <|
  .cons ⟨"cty", .named none, Codec.text.optional⟩ <|
  .cons ⟨"jku", .named none, Codec.text.optional⟩ <|
  .cons ⟨"jwk", .named none, Codec.verbatim.optional⟩ <|
  .cons ⟨"kid", .named none, Codec.text.optional⟩ <|
  .cons ⟨"x5u", .named none, Codec.text.optional⟩ <|
  .cons ⟨"x5c", .named none, Codec.text.list.optional⟩ <|
  .cons ⟨"x5t", .named none, Codec.text.optional⟩ <|
  .cons ⟨"x5t#S256", .named none, Codec.text.optional⟩ .nil

/-- The signing method that a header names. -/
def algorithm (text : String) : Except TokenFault String :=
  match readPart (Codec.record "Header" headerFields) text with
  | .error f => .error f
  | .ok (_, name, _, _, key, _) => if key.all KeyRecord.isKey then .ok name else .error .json

/-- The registered claims that are looked at besides those of `Claims`. Each may
stand once, and may be anything: one that cannot be read is as good as none, if
the text behind it can be. -/
def registeredFields : Fields [Option Value, Option Value, Option Value, Option Value,
    Option Value] :=
  .cons ⟨"exp", .named none, Codec.scalar.attempt⟩ <|
  .cons ⟨"nbf", .named none, Codec.scalar.attempt⟩ <|
  .cons ⟨"sub", .named none, Codec.any.attempt⟩ <|
  .cons ⟨"iss", .named none, Codec.any.attempt⟩ <|
  .cons ⟨"aud", .named none, Codec.any.attempt⟩ .nil

/-- A value names an audience: a text or a list of texts. -/
def isAudience (v : Value) : Bool :=
  match v with
  | .null => false
  | v => (Codec.text.ofValue v).isOk || (Codec.text.list.ofValue v).isOk

/-- The claims of a text, and whether they name an audience. -/
def claims (text : String) : Except TokenFault (Claims × Bool) := do
  let claims ← readPart Claims.codec text
  let (_, _, _, _, audience, _) ← readPart (Codec.record "Registered" registeredFields) text
  return (claims, audience.any isAudience)

/-- Seconds for which a token holds longer than it says, for clocks that do not
agree. -/
def leeway : Int := 60

/-- Splits a text at its last point. -/
def splitLast? (cs : List Char) : Option (List Char × List Char) :=
  let tail := cs.reverse.takeWhile (· ≠ '.')
  if tail.length = cs.length then none
  else some (cs.take (cs.length - tail.length - 1), tail.reverse)

/-- Looks at the claims of a token whose signature is right. A token that names
an audience is refused, since none is asked for. -/
def checkClaims (now : Instant) (payload : List Char) : Except TokenFault Claims := do
  let (claims, hasAudience) ← claims (← partText payload)
  if (claims.expiry : Int) < now.unixSeconds - leeway then .error .expired
  else if hasAudience then .error .audience
  else .ok claims

/-- The claims of a token that the secret has signed and that still holds. The
header is read before the signature is looked at, and the claims only behind
it. -/
def check (secret : String) (now : Instant) (token : String) : Except TokenFault Claims :=
  match splitLast? token.toList with
  | none => .error .shape
  | some (signed, mark) =>
    match splitLast? signed with
    | none => .error .shape
    | some (head, payload) => do
      let name ← algorithm (← partText head)
      if name ≠ "HS256" then .error .algorithm
      else if mark ≠ signature secret signed then .error .signature
      else checkClaims now payload

theorem check_empty (secret : String) (now : Instant) : check secret now "" = .error .shape := rfl

theorem expiryWord_of_nonneg {n : Int} (h : 0 ≤ n) (hn : n ≤ wordLimit) :
    (expiryWord n : Int) = n := by
  unfold expiryWord
  have : (n % ((wordLimit + 1 : Nat) : Int)) = n := Int.emod_eq_of_lt h (by omega)
  omega

end Token
end ChatServer.Account

