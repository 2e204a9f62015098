import ChatServer.Protocol.Content

/-!
# Envelopes the server sends

An envelope is one frame to clients: what it is about, the channel it concerns,
the session that caused it, and its content.

* `encode_eq`: an envelope is an object of exactly four members.
-/
namespace ChatServer.Protocol

open Json

structure Envelope where
  tag : ActionTag
  targetId : String
  senderId : Uuid
  content : Content
deriving DecidableEq

namespace Envelope

def ofError (e : ErrorContent) (targetId : String) (senderId : Uuid) : Envelope :=
  ⟨.error, targetId, senderId, .error e⟩

def encode (e : Envelope) : Value :=
  .object [("action_tag", .string e.tag.name), ("target_id", .string e.targetId),
    ("sender_id", .string e.senderId.text), ("content", e.content.encode)]

/-- The frame of an envelope. -/
def text (e : Envelope) : String := e.encode.text

theorem encode_eq (e : Envelope) : e.encode =
    .object [("action_tag", .string e.tag.name), ("target_id", .string e.targetId),
      ("sender_id", .string e.senderId.text), ("content", e.content.encode)] := rfl

end Envelope
end ChatServer.Protocol

