import ChatServer.Account.Access
import ChatServer.Account.Bearer
import ChatServer.Protocol.ActionTag
import ChatServer.Web.History

/-!
# The web service

Which request is answered how. A path that is not known is answered 404 and a
method that a path does not know 405, but the channel routes look at the token
before they look at the method. Requests with the method OPTIONS are about
access from other sites, and are answered on any path.
-/
namespace ChatServer.Web

open Account Protocol Store Time

inductive Route
  | health
  | info
  | createAccount
  | login
  | channels
  /-- The messages of the channel that a part of the path names. -/
  | messages (channel : List Char)
  | socket
deriving DecidableEq

def Route.ofPath? (path : List Char) : Option Route :=
  match (Address.segments path).map String.ofList with
  | ["health"] => some .health
  | ["info"] => some .info
  | ["api", "user", "create"] => some .createAccount
  | ["api", "user", "login"] => some .login
  | ["api", "channels"] => some .channels
  | ["api", "channels", channel, "messages"] =>
    if channel.isEmpty then none else some (.messages channel.toList)
  | ["ws"] => some .socket
  | _ => none

def information : InfoResponse :=
  ⟨"hub-server", version, ActionTag.clientTags.map ActionTag.name⟩

/-- The user that a token admits, or the status with which a request is refused:
401 for what is wrong with the token, 500 for a failure of the store. -/
def admitted (secret : String) (now : Instant) : Option String → Plan (Except Nat Identity)
  | none => .done (.error 401)
  | some token =>
    (verify secret now token).map fun
      | .ok who => .ok who
      | .error f => .error (if f.isUnauthorized then 401 else 500)

/-- The user that a request for data comes from, or the status with which it is
refused. The header is read strictly here. -/
def authenticate (secret : String) (now : Instant) (r : Request) : Plan (Except Nat Identity) :=
  admitted secret now ((r.header? "authorization").bind Bearer.strict?)

/-- The user that a request for a socket comes from, or the status with which it
is refused. The header is read leniently here. -/
def authenticateSocket (secret : String) (now : Instant) (r : Request) :
    Plan (Except Nat Identity) :=
  admitted secret now ((r.header? "authorization").bind Bearer.lenient?)

def hasInfix (word : List Char) : List Char → Bool
  | [] => word.isEmpty
  | c :: cs => word.isPrefixOf (c :: cs) || hasInfix word cs

/-- The status of a request for a socket that does not come over a connection
that can become one: 426 when the request is in order, and else 400. -/
def socketStatus (r : Request) : Nat :=
  let lower (name : String) : List Char := ((r.header? name).getD "").toList.map Char.toLower
  let asksForUpgrade := hasInfix "upgrade".toList (lower "connection")
  if asksForUpgrade ∧ lower "upgrade" = "websocket".toList ∧
      lower "sec-websocket-version" = "13".toList ∧ (r.header? "sec-websocket-key").isSome then 426
  else 400

/-- Answers requests to read, with or without the body. A request for the head
alone is carried out like the other. -/
def reading (r : Request) (plan : AnswerPlan) : AnswerPlan :=
  if r.method = "GET" then plan
  else if r.method = "HEAD" then plan.map fun answer => answer.map Answer.bodiless
  else status 405

/-- Answers requests with a body. -/
def posting {α : Type} (c : Json.Codec α) (r : Request) (next : α → AnswerPlan) : AnswerPlan :=
  if r.method = "POST" then withBody c r next else status 405

/-- Answers requests of users who have a token. Who the user is makes no
difference to the answer. -/
def protect (secret : String) (now : Instant) (r : Request) (plan : AnswerPlan) : AnswerPlan :=
  (authenticate secret now r).bind fun
    | .error n => status n
    | .ok _ => plan

/-- Answers a request. But for OPTIONS the path is looked at before the method,
and on the channel routes the token before both the method and the rest of the
path. The salt is for a password that may have to be hashed. -/
def serve (p : AccountPolicy) (now : Instant) (salt : String) (r : Request) : AnswerPlan :=
  let (path, query) := Address.parts r.target
  if r.method = "OPTIONS" then status 200
  else
    match Route.ofPath? path with
    | none => status 404
    | some .health => reading r (.done (.ok (.plainText "OK")))
    | some .info => reading r (.done (.ok (.json (InfoResponse.codec.write information))))
    | some .createAccount => posting Credentials.forCreation r (createAccount p now salt)
    | some .login => posting Credentials.forLogin r (login p now)
    | some .channels => protect p.secret now r (reading r listChannels)
    | some (.messages channel) => protect p.secret now r (reading r (readHistory channel query))
    | some .socket => status (if r.method = "GET" then socketStatus r else 405)

end ChatServer.Web

