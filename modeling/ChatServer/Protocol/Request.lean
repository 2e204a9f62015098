import ChatServer.Model.Message
import ChatServer.Protocol.ActionTag

/-!
# Requests of clients

A text frame is read in two steps. First as an envelope with any tag and any
content (`Inbound`), so that a request that is not understood can still be
answered with its tag and target. Then its tag and content are read as one of
the commands clients may give (`Command`).

* `command_unknown`: a tag outside the set is a command of its own.
-/
namespace ChatServer.Protocol

open Json Time

structure Inbound where
  tag : String
  targetId : Option String
  /-- Not used: the server puts in the session that the frame came from. -/
  senderId : Option String
  content : Value

namespace Inbound

/-- The fields of a client's envelope in JSON; all but the tag may be left
out. -/
def fields : Fields [String, Option String, Option String, Value] :=
  .cons ⟨"action_tag", .refused, .text⟩ <|
  .cons ⟨"target_id", .allowed none, Codec.text.optional⟩ <|
  .cons ⟨"sender_id", .allowed none, Codec.text.optional⟩ <|
  .cons ⟨"content", .allowed .null, .any⟩ .nil

def codec : Codec Inbound :=
  (Codec.record "InboundEnvelope" fields).map
    (fun (tag, targetId, senderId, content, _) => ⟨tag, targetId, senderId, content⟩)
    (fun e => (e.tag, e.targetId, e.senderId, e.content, ()))

/-- The target, empty when there is none. -/
def target (e : Inbound) : String := e.targetId.getD ""

end Inbound

structure RoomRequest where
  text : String
  /-- What the client proposes; the server's own time counts. -/
  created : Option Instant
deriving DecidableEq

namespace RoomRequest

def fields : Fields [String, Option Instant] :=
  .cons ⟨"text", .refused, .text⟩ <| .cons ⟨"created", .allowed none, Codec.instant.optional⟩ .nil

def codec : Codec RoomRequest :=
  (Codec.record "CreateRoomRequest" fields).map (fun (text, created, _) => ⟨text, created⟩)
    (fun r => (r.text, r.created, ()))

end RoomRequest

structure MessageRequest where
  text : String
  createdAt : Option Timestamp
deriving DecidableEq

namespace MessageRequest

def fields : Fields [String, Option Timestamp] :=
  .cons ⟨"text", .refused, .text⟩ <|
  .cons ⟨"created_at", .allowed none, Codec.timestamp.optional⟩ .nil

def codec : Codec MessageRequest :=
  (Codec.record "CreateMessageRequest" fields).map (fun (text, createdAt, _) => ⟨text, createdAt⟩)
    (fun r => (r.text, r.createdAt, ()))

end MessageRequest

inductive Command
  | createPublicRoom (room : RoomRequest)
  | createMessage (targetId : String) (message : MessageRequest)
  | listMessages (targetId : String)
  | joinPublicRoom (targetId : String)
  | leavePublicRoom (targetId : String)
  /-- A tag that clients may not send. -/
  | unknown (tag : String)
deriving DecidableEq

inductive DecodeError
  | malformed (e : ParseError)
  | content (tag : ActionTag) (m : Mismatch)

def DecodeError.message : DecodeError → String
  | malformed e => "malformed envelope: " ++ e.message
  | content tag m => "invalid content for " ++ tag.name ++ ": " ++ m.message

namespace Inbound

/-- Reads a text frame as an envelope. -/
def parse (text : String) : Except DecodeError Inbound :=
  (codec.parse text).mapError .malformed

/-- Reads the content as what the tag asks for. -/
def contentAs {α : Type} (e : Inbound) (tag : ActionTag) (c : Codec α) : Except DecodeError α :=
  (c.ofValue e.content).mapError (.content tag)

/-- The command of an envelope. -/
def command (e : Inbound) : Except DecodeError Command :=
  match ActionTag.ofName? e.tag with
  | none => .ok (.unknown e.tag)
  | some tag =>
    match tag with
    | .createPublicRoom => (e.contentAs tag RoomRequest.codec).map .createPublicRoom
    | .createMessage => (e.contentAs tag MessageRequest.codec).map (.createMessage e.target)
    | .listMessages => .ok (.listMessages e.target)
    | .joinPublicRoom => .ok (.joinPublicRoom e.target)
    | .leavePublicRoom => .ok (.leavePublicRoom e.target)
    | .error => .ok (.unknown e.tag)

theorem contentAs_ok {α : Type} {e : Inbound} {c : Codec α} {a : α}
    (h : c.ofValue e.content = .ok a) (tag : ActionTag) : e.contentAs tag c = .ok a := by
  rw [contentAs, h]
  rfl

theorem contentAs_error {α : Type} {e : Inbound} {c : Codec α} {m : Mismatch}
    (h : c.ofValue e.content = .error m) (tag : ActionTag) :
    e.contentAs tag c = .error (.content tag m) := by
  rw [contentAs, h]
  rfl

theorem command_unknown {e : Inbound} (h : ActionTag.ofName? e.tag = none) :
    e.command = .ok (.unknown e.tag) := by
  simp [command, h]

end Inbound
end ChatServer.Protocol

