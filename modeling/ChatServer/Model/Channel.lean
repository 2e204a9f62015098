import ChatServer.Json.Codec

/-!
# Channels

A place to which messages are posted. There is one kind of channel, the public
room, which any user may find, join and post to.

* `ChannelKind.ofName?_name`: a kind is found by its name.
-/
namespace ChatServer

open Json Time

inductive ChannelKind
  | publicRoom
deriving DecidableEq

namespace ChannelKind

def name : ChannelKind → String
  | publicRoom => "public_room"

def table : List (String × ChannelKind) := [("public_room", publicRoom)]

def ofName? (s : String) : Option ChannelKind := table.lookup s

theorem ofName?_name (k : ChannelKind) : ofName? k.name = some k := by
  cases k; decide

def codec : Codec ChannelKind := .choice table name

end ChannelKind

structure Channel where
  id : Uuid
  kind : ChannelKind
  name : String
  creatorId : Uuid
  createdAt : Instant
  updatedAt : Option Instant
deriving DecidableEq

namespace Channel

def fields : Fields [Uuid, ChannelKind, String, Uuid, Instant, Option Instant] :=
  .cons ⟨"id", .refused, .uuid⟩ <|
  .cons ⟨"kind", .refused, ChannelKind.codec⟩ <|
  .cons ⟨"name", .refused, .text⟩ <|
  .cons ⟨"creator_id", .refused, .uuid⟩ <|
  .cons ⟨"created_at", .refused, .instant⟩ <|
  .cons ⟨"updated_at", .named none, Codec.instant.optional⟩ .nil

def codec : Codec Channel :=
  (Codec.record "Channel" fields).map
    (fun (id, kind, name, creatorId, createdAt, updatedAt, _) =>
      ⟨id, kind, name, creatorId, createdAt, updatedAt⟩)
    (fun c => (c.id, c.kind, c.name, c.creatorId, c.createdAt, c.updatedAt, ()))

end Channel
end ChatServer

