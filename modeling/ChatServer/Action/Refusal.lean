import ChatServer.Protocol.Content
import ChatServer.Protocol.Request
import ChatServer.Store.Error
import ChatServer.Text.Quoted

/-!
# Refusals

Why a request of a client is not carried out, and what the client is told. The
cause of a failure of the store is not told.
-/
namespace ChatServer.Action

open Protocol Text

/-- What a text that must not be empty is for. -/
inductive TextPurpose
  | room
  | message
deriving DecidableEq

def TextPurpose.word : TextPurpose → String
  | room => "room"
  | message => "message"

/-- Why a request is not carried out. -/
inductive Refusal
  /-- The frame is no envelope, or its content is not what its tag asks for. -/
  | undecoded (e : DecodeError)
  /-- The tag is none that clients may send. -/
  | unknownTag (tag : String)
  /-- The frame cannot be read at all. -/
  | unreadable (message : String)
  /-- A text is empty or blank. -/
  | blankText (purpose : TextPurpose)
  /-- A message's time lies outside the years that can be ordered. -/
  | unorderableTime (text : String)
  /-- The target is no identifier. -/
  | noSuchTarget (target : String)
  /-- No channel has the identifier. -/
  | noSuchChannel (id : Uuid)
  /-- The store failed. -/
  | store (e : Store.Error)

namespace Refusal

def code : Refusal → ErrorCode
  | undecoded _ => .protocolError
  | unknownTag _ => .protocolError
  | unreadable _ => .protocolError
  | blankText _ => .validationError
  | unorderableTime _ => .validationError
  | noSuchTarget _ => .notFound
  | noSuchChannel _ => .notFound
  | store _ => .serverError

/-- The text that the client is told. It quotes what the client sent, but says
nothing of why the store failed. -/
def message : Refusal → String
  | undecoded e => e.message
  | unknownTag tag => "unknown action tag '" ++ tag ++ "'"
  | unreadable message => message
  | blankText purpose => purpose.word ++ " text must not be empty"
  | unorderableTime text => "created_at '" ++ text ++ "' must fall within years 0000 to 9999"
  | noSuchTarget target => "channel " ++ quoted target ++ " not found"
  | noSuchChannel id => "channel " ++ id.text ++ " not found"
  | store _ => "internal server error"

end Refusal
end ChatServer.Action

