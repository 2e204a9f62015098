import ChatServer.Store.Row

/-!
# Tables

The tables of the store with their keys. Rows stand in the order in which they
were inserted. Inserting a row checks that it shares no key with another row,
and then that the rows it refers to are there.

* `insertUser_eq_ok` and its like: when an insertion succeeds, and that it adds
  its row and nothing else.
* `Tables.Keyed`: what the keys promise of all rows.
-/
namespace ChatServer.Store

/-- All that the store holds. `versions` are the versions of the schema that
have been set up. -/
structure Tables where
  versions : List Nat
  users : List UserRow
  channels : List ChannelRow
  members : List MemberRow
  messages : List MessageRow
deriving DecidableEq

namespace Tables

/-- A new store, set up to the current version. -/
def empty : Tables := ⟨[1, 2], [], [], [], []⟩

/-- A store as the first version of the schema left it. -/
def emptyFirstVersion : Tables := ⟨[1], [], [], [], []⟩

def hasUser (t : Tables) (id : String) : Bool := t.users.any (·.id == some id)

def hasChannel (t : Tables) (id : String) : Bool := t.channels.any (·.id == some id)

def hasMessage (t : Tables) (id : String) : Bool := t.messages.any (·.id == some id)

def hasMember (t : Tables) (channelId userId : String) : Bool :=
  t.members.any fun m => m.channelId == channelId && m.userId == userId

def insertUser (t : Tables) (row : UserRow) : Except Error Tables :=
  if t.users.any (·.email == row.email) then .error (.unique ["users.email"])
  else if row.id.any t.hasUser then .error (.unique ["users.id"])
  else .ok { t with users := t.users ++ [row] }

def insertChannel (t : Tables) (row : ChannelRow) : Except Error Tables :=
  if row.id.any t.hasChannel then .error (.unique ["channels.id"])
  else if !t.hasUser row.creatorId then .error .foreignKey
  else .ok { t with channels := t.channels ++ [row] }

def insertMember (t : Tables) (row : MemberRow) : Except Error Tables :=
  if t.hasMember row.channelId row.userId then
    .error (.unique ["channel_members.channel_id", "channel_members.user_id"])
  else if !(t.hasChannel row.channelId && t.hasUser row.userId) then .error .foreignKey
  else .ok { t with members := t.members ++ [row] }

def insertMessage (t : Tables) (row : MessageRow) : Except Error Tables :=
  if row.id.any t.hasMessage then .error (.unique ["messages.id"])
  else if !(t.hasChannel row.channelId && t.hasUser row.userId) then .error .foreignKey
  else .ok { t with messages := t.messages ++ [row] }

def eraseMember (t : Tables) (channelId userId : String) : Tables :=
  { t with members := t.members.filter fun m => !(m.channelId == channelId && m.userId == userId) }

/-- Brings the schema to the current version. The second version adds the column
of submitted times, which is empty in every message that is there. -/
def migrate (t : Tables) : Tables :=
  let version := t.versions.foldl max 0
  let t := if version < 1 then { t with versions := t.versions ++ [1] } else t
  if version < 2 then
    { t with
      versions := t.versions ++ [2]
      messages := t.messages.map fun m => { m with createdAtText := none } }
  else t

/-- What the keys promise: no two rows share one, and rows refer to rows that
are there. -/
structure Keyed (t : Tables) : Prop where
  userIds : (t.users.filterMap UserRow.id).Nodup
  emails : (t.users.map UserRow.email).Nodup
  channelIds : (t.channels.filterMap ChannelRow.id).Nodup
  memberships : (t.members.map fun m => (m.channelId, m.userId)).Nodup
  messageIds : (t.messages.filterMap MessageRow.id).Nodup
  creators : ∀ c ∈ t.channels, t.hasUser c.creatorId = true
  members : ∀ m ∈ t.members, t.hasChannel m.channelId = true ∧ t.hasUser m.userId = true
  messages : ∀ m ∈ t.messages, t.hasChannel m.channelId = true ∧ t.hasUser m.userId = true

theorem keyed_empty : empty.Keyed := by
  constructor <;> simp [empty]

theorem insertUser_eq_ok {t u : Tables} {row : UserRow} : t.insertUser row = .ok u ↔
    t.users.any (·.email == row.email) = false ∧ row.id.any t.hasUser = false ∧
      { t with users := t.users ++ [row] } = u := by
  unfold insertUser
  cases t.users.any (·.email == row.email) <;> cases row.id.any t.hasUser <;> simp

theorem insertChannel_eq_ok {t u : Tables} {row : ChannelRow} : t.insertChannel row = .ok u ↔
    row.id.any t.hasChannel = false ∧ t.hasUser row.creatorId = true ∧
      { t with channels := t.channels ++ [row] } = u := by
  unfold insertChannel
  cases row.id.any t.hasChannel <;> cases t.hasUser row.creatorId <;> simp

theorem insertMember_eq_ok {t u : Tables} {row : MemberRow} : t.insertMember row = .ok u ↔
    t.hasMember row.channelId row.userId = false ∧ t.hasChannel row.channelId = true ∧
      t.hasUser row.userId = true ∧ { t with members := t.members ++ [row] } = u := by
  unfold insertMember
  cases t.hasMember row.channelId row.userId <;> cases t.hasChannel row.channelId <;>
    cases t.hasUser row.userId <;> simp

theorem insertMessage_eq_ok {t u : Tables} {row : MessageRow} : t.insertMessage row = .ok u ↔
    row.id.any t.hasMessage = false ∧ t.hasChannel row.channelId = true ∧
      t.hasUser row.userId = true ∧ { t with messages := t.messages ++ [row] } = u := by
  unfold insertMessage
  cases row.id.any t.hasMessage <;> cases t.hasChannel row.channelId <;>
    cases t.hasUser row.userId <;> simp

theorem migrate_of_current {t : Tables} (h : 2 ≤ t.versions.foldl max 0) : t.migrate = t := by
  have h1 : ¬ t.versions.foldl max 0 < 1 := by omega
  have h2 : ¬ t.versions.foldl max 0 < 2 := by omega
  simp [migrate, h1, h2]

end Tables
end ChatServer.Store

