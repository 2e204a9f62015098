import ChatServer.Account.Hasher
import ChatServer.Account.Token
import ChatServer.Store.Plan
import ChatServer.Text.Blank
import ChatServer.Web.Exchange
import ChatServer.Web.MediaType

/-!
# Account routes

Creating an account and logging in. Both take an email and a password in JSON
and answer with the user and a token. Emails are trimmed, and then compared as
they are written.

* `createAccount_refused`: an implausible email or an empty password is refused
  without the store.
-/
namespace ChatServer.Web

open Account Json Store Time

/-- What the account routes need to know. -/
structure AccountPolicy where
  secret : String
  /-- The life of new tokens, in seconds. -/
  tokenSeconds : Int
  hasher : Hasher

/-- A plan for an answer, which has none when a token cannot be issued. -/
abbrev AnswerPlan := Plan (Except TimeOverflow Answer)

def status (n : Nat) : AnswerPlan := .done (.ok (.ofStatus n))

/-- An email that may be one: something on both sides of the first at sign, no
blanks, and at most 254 bytes. -/
def isPlausibleEmail (email : String) : Bool :=
  let cs := email.toList
  let rest := (cs.dropWhile (· ≠ '@')).drop 1
  cs.contains '@' && cs.head? ≠ some '@' && !rest.isEmpty && email.utf8ByteSize ≤ 254 &&
    !cs.any Text.isBlank

/-- The value in the body of a request, or the status with which it is refused:
415 when it is not said to be JSON, 400 when it is not JSON, and 422 when it is
JSON of another form. -/
def readBody {α : Type} (c : Codec α) (r : Request) : Except Nat α :=
  if ((r.header? "content-type").map MediaType.isJson).getD false then
    (c.parse r.body).mapError fun e => if e.isMismatch then 422 else 400
  else .error 415

/-- The answer that lets a user in: the user in the body, and a new token in the
header. -/
def welcome (p : AccountPolicy) (now : Instant) (user : User) : AnswerPlan :=
  .done <| (Token.issue p.secret user.identity p.tokenSeconds now).map fun token =>
    { Answer.json (UserResponse.codec.write ⟨user.id, user.email⟩) with
      authorization := some ("Bearer " ++ token) }

def createAccount (p : AccountPolicy) (now : Instant) (salt : String) (c : Credentials) :
    AnswerPlan :=
  let email := Text.trim c.email
  if !isPlausibleEmail email || c.password.isEmpty then status 400
  else
    .ask (.createUser email (p.hasher.hash salt c.password)) fun
      | .error _ => status 500
      | .ok none => status 409
      | .ok (some user) => welcome p now user

def login (p : AccountPolicy) (now : Instant) (c : Credentials) : AnswerPlan :=
  .ask (.getCredentials (Text.trim c.email)) fun
    | .error _ => status 500
    | .ok none => status 401
    | .ok (some (user, text)) =>
      match p.hasher.check text c.password with
      | none => status 500
      | some false => status 401
      | some true => welcome p now user

/-- Goes on with the value in the body of a request. -/
def withBody {α : Type} (c : Codec α) (r : Request) (next : α → AnswerPlan) : AnswerPlan :=
  match readBody c r with
  | .ok x => next x
  | .error n => status n

theorem createAccount_refused {p : AccountPolicy} {now : Instant} {salt : String} {c : Credentials}
    (h : isPlausibleEmail (Text.trim c.email) = false ∨ c.password = "") :
    createAccount p now salt c = status 400 := by
  rcases h with h | h <;> simp [createAccount, h]

end ChatServer.Web

