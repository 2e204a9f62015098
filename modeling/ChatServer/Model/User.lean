import ChatServer.Json.Codec

/-!
# Users

An account as the rest of the server sees it; the password's hash stays in the
store.
-/
namespace ChatServer

open Json Time

structure User where
  id : Uuid
  email : String
  createdAt : Instant
deriving DecidableEq

/-- Whom a token or a session belongs to. -/
structure Identity where
  userId : Uuid
  email : String
deriving DecidableEq

namespace User

/-- Whom a user's tokens and sessions belong to. -/
def identity (u : User) : Identity := ⟨u.id, u.email⟩

def fields : Fields [Uuid, String, Instant] :=
  .cons ⟨"id", .refused, .uuid⟩ <|
  .cons ⟨"email", .refused, .text⟩ <|
  .cons ⟨"created_at", .refused, .instant⟩ .nil

def codec : Codec User :=
  (Codec.record "User" fields).map
    (fun (id, email, createdAt, _) => ⟨id, email, createdAt⟩)
    (fun u => (u.id, u.email, u.createdAt, ()))

end User
end ChatServer

