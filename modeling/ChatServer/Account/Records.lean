import ChatServer.Json.Codec

/-!
# Records of the account interface

What stands in tokens, in the bodies of account requests, and in the answers of
the account and information routes.
-/
namespace ChatServer.Account

open Json

/-- The greatest number of a 64-bit word. -/
def wordLimit : Nat := 0xffffffffffffffff

/-- What a token says: whose it is, and until when it holds, in seconds since
1970. -/
structure Claims where
  subject : Uuid
  email : String
  expiry : Nat
deriving DecidableEq

namespace Claims

def fields : Fields [Uuid, String, Nat] :=
  .cons ⟨"sub", .refused, .uuid⟩ <|
  .cons ⟨"email", .refused, .text⟩ <|
  .cons ⟨"exp", .refused, .number wordLimit "usize"⟩ .nil

def codec : Codec Claims :=
  (Codec.record "Claims" fields).map (fun (subject, email, expiry, _) => ⟨subject, email, expiry⟩)
    (fun c => (c.subject, c.email, c.expiry, ()))

end Claims

/-- An email and a password, as account requests bring them. What is left out is
empty. -/
structure Credentials where
  email : String
  password : String
deriving DecidableEq

namespace Credentials

def fields : Fields [String, String] :=
  .cons ⟨"email", .allowed "", .text⟩ <| .cons ⟨"password", .allowed "", .text⟩ .nil

def codec (name : String) : Codec Credentials :=
  (Codec.record name fields).map (fun (email, password, _) => ⟨email, password⟩)
    (fun c => (c.email, c.password, ()))

def forCreation : Codec Credentials := codec "CreateUserRequest"

def forLogin : Codec Credentials := codec "LoginRequest"

end Credentials

structure UserResponse where
  userId : Uuid
  email : String
deriving DecidableEq

namespace UserResponse

def fields : Fields [Uuid, String] :=
  .cons ⟨"user_id", .refused, .uuid⟩ <| .cons ⟨"email", .refused, .text⟩ .nil

def codec : Codec UserResponse :=
  (Codec.record "UserResponse" fields).map (fun (userId, email, _) => ⟨userId, email⟩)
    (fun r => (r.userId, r.email, ()))

end UserResponse

structure InfoResponse where
  name : String
  protocolVersion : Nat
  actionTags : List String
deriving DecidableEq

namespace InfoResponse

def fields : Fields [String, Nat, List String] :=
  .cons ⟨"name", .refused, .text⟩ <|
  .cons ⟨"protocol_version", .refused, .number 0xffff "u16"⟩ <|
  .cons ⟨"action_tags", .refused, Codec.text.list⟩ .nil

def codec : Codec InfoResponse :=
  (Codec.record "InfoResponse" fields).map (fun (name, version, tags, _) => ⟨name, version, tags⟩)
    (fun r => (r.name, r.protocolVersion, r.actionTags, ()))

end InfoResponse
end ChatServer.Account

