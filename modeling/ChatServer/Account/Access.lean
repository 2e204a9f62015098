import ChatServer.Account.Token
import ChatServer.Store.Plan

/-!
# Access

Whom a bearer token admits. A token has to be in order, and it must name a user
that the store knows; the answer holds the email of the store, not that of the
token.

* `verify_nil`: an empty token is a missing one, and the store is not asked.
-/
namespace ChatServer.Account

open Store Time

inductive AccessFault
  | missing
  | invalid (f : TokenFault)
  | unknownUser (id : Uuid)
  | store (e : Store.Error)

namespace AccessFault

def message : AccessFault → String
  | missing => "missing bearer token"
  | invalid f => "invalid token: " ++ f.message
  | unknownUser id => "token subject " ++ id.text ++ " is not a known user"
  | store e => "user lookup failed: " ++ e.chain

/-- The token is at fault, and not the server: anything but a failure of the
store. -/
def isUnauthorized : AccessFault → Bool
  | store _ => false
  | _ => true

end AccessFault

/-- The user that a token admits. The store is asked only about a token that is
in order, and the user is the one that it has for the subject now. -/
def verify (secret : String) (now : Instant) (token : String) :
    Plan (Except AccessFault Identity) :=
  if token.isEmpty then .done (.error .missing)
  else
    match Token.check secret now token with
    | .error f => .done (.error (.invalid f))
    | .ok claims =>
      .ask (.getUser claims.subject) fun
        | .error e => .done (.error (.store e))
        | .ok none => .done (.error (.unknownUser claims.subject))
        | .ok (some user) => .done (.ok user.identity)

theorem verify_nil (secret : String) (now : Instant) :
    verify secret now "" = .done (.error .missing) := by
  simp [verify]

end ChatServer.Account

