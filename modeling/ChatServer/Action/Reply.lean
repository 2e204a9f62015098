import ChatServer.Action.Refusal
import ChatServer.Delivery.Registry
import ChatServer.Protocol.Envelope
import ChatServer.Session

/-!
# Replies

What is sent after a request, and to whom. Every reply carries the identifier of
the session that the request came from, and a refusal goes to that session
alone.
-/
namespace ChatServer.Action

open Delivery Protocol

/-- An envelope and who it is for. -/
structure Reply where
  audience : Audience
  envelope : Envelope
deriving DecidableEq

namespace Reply

/-- The reply to a request that is not carried out. The tag and target are those
of the request, as far as they could be read. -/
def refuse (s : Session) (r : Refusal) (tag : Option String) (targetId : String) : Reply :=
  ⟨.session s.id, .ofError ⟨r.code, r.message, tag⟩ targetId s.id⟩

def unreadable (s : Session) (message : String) : Reply := refuse s (.unreadable message) none ""

/-- An event of a channel, for its members and the session that caused it, which
may be the session of a user who is no member. -/
def toChannel (s : Session) (members : List Uuid) (tag : ActionTag) (channelId : Uuid)
    (content : Content) : Reply :=
  ⟨.channel members s.id, ⟨tag, channelId.text, s.id, content⟩⟩

/-- An answer for the session that asked. -/
def toSession (s : Session) (tag : ActionTag) (channelId : Uuid) (content : Content) : Reply :=
  ⟨.session s.id, ⟨tag, channelId.text, s.id, content⟩⟩

end Reply
end ChatServer.Action

