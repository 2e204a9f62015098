import ChatServer.Store.Tables

/-!
# Rows put in by hand

A row as the columns that are given for it by name. Beside its keys a table asks
that certain columns are there; an identifier may lack.
-/
namespace ChatServer.Store

abbrev Columns := String → Option String

/-- A column that must be there. -/
def Columns.required (columns : Columns) (table column : String) : Except Error String :=
  match columns column with
  | some text => .ok text
  | none => .error (.required (table ++ "." ++ column))

namespace Tables

def fillUsers (t : Tables) (columns : Columns) : Except Error Tables := do
  let get := columns.required "users"
  t.insertUser ⟨columns "id", ← get "email", ← get "password", ← get "created_at"⟩

def fillChannels (t : Tables) (columns : Columns) : Except Error Tables := do
  let get := columns.required "channels"
  t.insertChannel
    ⟨columns "id", ← get "kind", ← get "name", ← get "creator_id", ← get "created_at",
      columns "updated_at"⟩

def fillMembers (t : Tables) (columns : Columns) : Except Error Tables := do
  let get := columns.required "channel_members"
  t.insertMember ⟨← get "channel_id", ← get "user_id", ← get "joined_at"⟩

def fillMessages (t : Tables) (columns : Columns) : Except Error Tables := do
  let get := columns.required "messages"
  t.insertMessage
    ⟨columns "id", ← get "channel_id", ← get "sender_id", ← get "user_id", ← get "text",
      ← get "created_at", columns "created_at_text", columns "updated_at"⟩

end Tables

end ChatServer.Store

