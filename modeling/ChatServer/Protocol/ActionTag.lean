import ChatServer.Json.Codec

/-!
# Action tags

The closed set of tags that say what an envelope is about. All but `ERROR` may
be sent by clients.

* `ofName?_name`: a tag is found by its name.
* `ofName?_eq_some`: only by its name.
-/
namespace ChatServer.Protocol

open Json

/-- The version of the set of tags. -/
def version : Nat := 1

inductive ActionTag
  | createPublicRoom
  | createMessage
  | listMessages
  | joinPublicRoom
  | leavePublicRoom
  /-- Sent by the server alone. -/
  | error
deriving DecidableEq

namespace ActionTag

def name : ActionTag → String
  | createPublicRoom => "CREATE_PUBLIC_ROOM"
  | createMessage => "CREATE_MESSAGE"
  | listMessages => "LIST_MESSAGES"
  | joinPublicRoom => "JOIN_PUBLIC_ROOM"
  | leavePublicRoom => "LEAVE_PUBLIC_ROOM"
  | error => "ERROR"

/-- The tags that clients may send, in order. -/
def clientTags : List ActionTag :=
  [createPublicRoom, createMessage, listMessages, joinPublicRoom, leavePublicRoom]

def table : List (String × ActionTag) := (clientTags ++ [error]).map fun t => (t.name, t)

def ofName? (s : String) : Option ActionTag := table.lookup s

/-- Clients may send the tag. -/
def isClientTag (t : ActionTag) : Bool := t ≠ error

def codec : Codec ActionTag := .choice table name

theorem ofName?_name (t : ActionTag) : ofName? t.name = some t := by
  cases t <;> decide

theorem ofName?_eq_some {s : String} {t : ActionTag} (h : ofName? s = some t) : s = t.name := by
  simp only [ofName?, table, clientTags, List.map_cons, List.map_nil, List.cons_append,
    List.nil_append, List.lookup_cons, List.lookup_nil] at h
  repeat' split at h
  all_goals simp_all

theorem name_inj {a b : ActionTag} : a.name = b.name ↔ a = b := by
  refine ⟨fun h => ?_, fun h => h ▸ rfl⟩
  have hb := ofName?_name b
  rw [← h, ofName?_name] at hb
  exact Option.some.inj hb

end ActionTag
end ChatServer.Protocol

