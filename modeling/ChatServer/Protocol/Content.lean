import ChatServer.Model.Channel
import ChatServer.Model.Message
import ChatServer.Protocol.ActionTag

/-!
# Contents of envelopes

What the server sends inside an envelope: a room, a message, a list of messages,
a member who came or went, or an error. Each has its own record in JSON, without
a mark of which it is: the tag of the envelope says that.
-/
namespace ChatServer.Protocol

open Json Time

structure RoomContent where
  id : Uuid
  kind : ChannelKind
  text : String
  creatorId : Uuid
  created : Instant
  updated : Option Instant
deriving DecidableEq

namespace RoomContent

def fields : Fields [Uuid, ChannelKind, String, Uuid, Instant, Option Instant] :=
  .cons ⟨"id", .refused, .uuid⟩ <|
  .cons ⟨"kind", .refused, ChannelKind.codec⟩ <|
  .cons ⟨"text", .refused, .text⟩ <|
  .cons ⟨"creator_id", .refused, .uuid⟩ <|
  .cons ⟨"created", .refused, .instant⟩ <|
  .cons ⟨"updated", .named none, Codec.instant.optional⟩ .nil

def codec : Codec RoomContent :=
  (Codec.record "RoomContent" fields).map
    (fun (id, kind, text, creatorId, created, updated, _) =>
      ⟨id, kind, text, creatorId, created, updated⟩)
    (fun r => (r.id, r.kind, r.text, r.creatorId, r.created, r.updated, ()))

/-- A channel as clients see it. -/
def ofChannel (c : Channel) : RoomContent :=
  ⟨c.id, c.kind, c.name, c.creatorId, c.createdAt, c.updatedAt⟩

end RoomContent

structure MessageContent where
  id : Uuid
  userId : Uuid
  text : String
  createdAt : Timestamp
  updatedAt : Option Instant
deriving DecidableEq

namespace MessageContent

def fields : Fields [Uuid, Uuid, String, Timestamp, Option Instant] :=
  .cons ⟨"id", .refused, .uuid⟩ <|
  .cons ⟨"user_id", .refused, .uuid⟩ <|
  .cons ⟨"text", .refused, .text⟩ <|
  .cons ⟨"created_at", .refused, .timestamp⟩ <|
  .cons ⟨"updated_at", .named none, Codec.instant.optional⟩ .nil

def codec : Codec MessageContent :=
  (Codec.record "MessageContent" fields).map
    (fun (id, userId, text, createdAt, updatedAt, _) => ⟨id, userId, text, createdAt, updatedAt⟩)
    (fun m => (m.id, m.userId, m.text, m.createdAt, m.updatedAt, ()))

/-- A stored message as clients see it. -/
def ofMessage (m : Message) : MessageContent := ⟨m.id, m.userId, m.text, m.createdAt, m.updatedAt⟩

end MessageContent

structure MessagesContent where
  messages : List MessageContent
deriving DecidableEq

namespace MessagesContent

def fields : Fields [List MessageContent] :=
  .cons ⟨"messages", .refused, MessageContent.codec.list⟩ .nil

def codec : Codec MessagesContent :=
  (Codec.record "MessagesContent" fields).map (fun (ms, _) => ⟨ms⟩) (fun c => (c.messages, ()))

end MessagesContent

structure MemberContent where
  userId : Uuid
  email : String
deriving DecidableEq

namespace MemberContent

def fields : Fields [Uuid, String] :=
  .cons ⟨"user_id", .refused, .uuid⟩ <| .cons ⟨"email", .refused, .text⟩ .nil

def codec : Codec MemberContent :=
  (Codec.record "MemberContent" fields).map (fun (userId, email, _) => ⟨userId, email⟩)
    (fun m => (m.userId, m.email, ()))

end MemberContent

inductive ErrorCode
  | protocolError
  | validationError
  | notFound
  | serverError
deriving DecidableEq

namespace ErrorCode

def name : ErrorCode → String
  | protocolError => "PROTOCOL_ERROR"
  | validationError => "VALIDATION_ERROR"
  | notFound => "NOT_FOUND"
  | serverError => "SERVER_ERROR"

def table : List (String × ErrorCode) :=
  [protocolError, validationError, notFound, serverError].map fun c => (c.name, c)

def codec : Codec ErrorCode := .choice table name

end ErrorCode

/-- Why a request was refused, with the tag it had, as far as it could be
read. -/
structure ErrorContent where
  code : ErrorCode
  message : String
  requestActionTag : Option String
deriving DecidableEq

namespace ErrorContent

def fields : Fields [ErrorCode, String, Option String] :=
  .cons ⟨"code", .refused, ErrorCode.codec⟩ <|
  .cons ⟨"message", .refused, .text⟩ <|
  .cons ⟨"request_action_tag", .named none, Codec.text.optional⟩ .nil

def codec : Codec ErrorContent :=
  (Codec.record "ErrorContent" fields).map (fun (code, message, tag, _) => ⟨code, message, tag⟩)
    (fun e => (e.code, e.message, e.requestActionTag, ()))

end ErrorContent

inductive Content
  | room (r : RoomContent)
  | message (m : MessageContent)
  | messages (ms : MessagesContent)
  | member (m : MemberContent)
  | error (e : ErrorContent)
deriving DecidableEq

def Content.encode : Content → Value
  | room r => RoomContent.codec.encode r
  | message m => MessageContent.codec.encode m
  | messages ms => MessagesContent.codec.encode ms
  | member m => MemberContent.codec.encode m
  | error e => ErrorContent.codec.encode e

end ChatServer.Protocol

