import ChatServer.Json.Codec

/-!
# Messages

A message of a channel. `senderId` is the session that sent it, `userId` the
user of that session, and `createdAt` shows the time as the sender wrote it.
-/
namespace ChatServer

open Json Time

structure Message where
  id : Uuid
  channelId : Uuid
  senderId : Uuid
  userId : Uuid
  text : String
  createdAt : Timestamp
  updatedAt : Option Instant
deriving DecidableEq

namespace Message

def fields : Fields [Uuid, Uuid, Uuid, Uuid, String, Timestamp, Option Instant] :=
  .cons ⟨"id", .refused, .uuid⟩ <|
  .cons ⟨"channel_id", .refused, .uuid⟩ <|
  .cons ⟨"sender_id", .refused, .uuid⟩ <|
  .cons ⟨"user_id", .refused, .uuid⟩ <|
  .cons ⟨"text", .refused, .text⟩ <|
  .cons ⟨"created_at", .refused, .timestamp⟩ <|
  .cons ⟨"updated_at", .named none, Codec.instant.optional⟩ .nil

def codec : Codec Message :=
  (Codec.record "Message" fields).map
    (fun (id, channelId, senderId, userId, text, createdAt, updatedAt, _) =>
      ⟨id, channelId, senderId, userId, text, createdAt, updatedAt⟩)
    (fun m => (m.id, m.channelId, m.senderId, m.userId, m.text, m.createdAt, m.updatedAt, ()))

end Message
end ChatServer

