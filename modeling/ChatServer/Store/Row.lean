import ChatServer.Model.Channel
import ChatServer.Model.Message
import ChatServer.Model.User
import ChatServer.Store.Error
import ChatServer.Time.Stored

/-!
# Rows

The store keeps texts: identifiers in their written form, times in the stored
form. A row is what a table holds, and each has a conversion to the value it
stands for, which fails on a column that does not hold what it should. A message
keeps its time twice: in the stored form, which orders it, and as it was
submitted, which is shown. Messages written before the second column was added
have only the first. Rows that were put in by hand may lack an identifier; then
no other row can refer to them, and reading them fails.

* `UserRow.read_ofUser`, `ChannelRow.read_ofChannel`,
  `MessageRow.read_ofMessage`: what the store writes converts back, where the
  store's own clock is within four-digit years.
-/
namespace ChatServer.Store

open Time

structure UserRow where
  id : Option String
  email : String
  password : String
  createdAt : String
deriving DecidableEq

structure ChannelRow where
  id : Option String
  kind : String
  name : String
  creatorId : String
  createdAt : String
  updatedAt : Option String
deriving DecidableEq

structure MemberRow where
  channelId : String
  userId : String
  joinedAt : String
deriving DecidableEq

structure MessageRow where
  id : Option String
  channelId : String
  senderId : String
  userId : String
  text : String
  createdAt : String
  createdAtText : Option String
  updatedAt : Option String
deriving DecidableEq

def readId (text : String) : Except Error Uuid :=
  match Uuid.parse? text with
  | some id => .ok id
  | none => .error (.corruptId text)

def named : Option String → Except Error String
  | some text => .ok text
  | none => .error .unnamed

def readTime (text : String) : Except Error Instant :=
  (readStored text.toList).mapError (.corruptTime text)

/-- The time that a column holds, where it holds one. -/
def readOptionalTime : Option String → Except Error (Option Instant)
  | none => .ok none
  | some text => (readTime text).map some

def readSubmittedTime (text : String) : Except Error Timestamp :=
  (Timestamp.parse text).mapError (.corruptTime text)

namespace UserRow

def read (row : UserRow) : Except Error User := do
  let id ← named row.id
  let id ← readId id
  let createdAt ← readTime row.createdAt
  return ⟨id, row.email, createdAt⟩

/-- The row of a user with a hashed password. -/
def ofUser (u : User) (password : String) : UserRow :=
  ⟨some u.id.text, u.email, password, u.createdAt.stored⟩

end UserRow

namespace ChannelRow

def read (row : ChannelRow) : Except Error Channel := do
  let id ← named row.id
  match ChannelKind.ofName? row.kind with
  | none => .error (.unknownKind row.kind id)
  | some kind => do
    let id ← readId id
    let creatorId ← readId row.creatorId
    let createdAt ← readTime row.createdAt
    let updatedAt ← readOptionalTime row.updatedAt
    return ⟨id, kind, row.name, creatorId, createdAt, updatedAt⟩

def ofChannel (c : Channel) : ChannelRow :=
  ⟨some c.id.text, c.kind.name, c.name, c.creatorId.text, c.createdAt.stored, none⟩

end ChannelRow

namespace MessageRow

/-- The time of a message: as submitted where that is kept, else the stored
time. -/
def readCreatedAt (row : MessageRow) : Except Error Timestamp :=
  match row.createdAtText with
  | some text => readSubmittedTime text
  | none => (readTime row.createdAt).map Timestamp.ofInstant

def read (row : MessageRow) : Except Error Message := do
  let id ← named row.id
  let id ← readId id
  let channelId ← readId row.channelId
  let senderId ← readId row.senderId
  let userId ← readId row.userId
  let createdAt ← row.readCreatedAt
  let updatedAt ← readOptionalTime row.updatedAt
  return ⟨id, channelId, senderId, userId, row.text, createdAt, updatedAt⟩

def ofMessage (m : Message) : MessageRow :=
  ⟨some m.id.text, m.channelId.text, m.senderId.text, m.userId.text, m.text,
    m.createdAt.instant.stored,
    some m.createdAt.text, none⟩

end MessageRow

theorem readId_text (id : Uuid) : readId id.text = .ok id := by
  simp [readId, Uuid.parse?_text]

theorem readTime_stored {t : Instant} (h : t.hasFourDigitYear = true) :
    readTime t.stored = .ok t := by
  rw [readTime, Instant.stored, String.toList_ofList, readStored_storedChars h]
  rfl

theorem readSubmittedTime_text (t : Timestamp) : readSubmittedTime t.text = .ok t := by
  rw [readSubmittedTime, Timestamp.parse_text]
  rfl

theorem UserRow.read_ofUser {u : User} (h : u.createdAt.hasFourDigitYear = true)
    (password : String) :
    (UserRow.ofUser u password).read = .ok u := by
  simp [UserRow.read, UserRow.ofUser, named, readId_text, readTime_stored h, bind,
    Except.bind, pure,
    Except.pure]

theorem ChannelRow.read_ofChannel {c : Channel} (h : c.createdAt.hasFourDigitYear = true)
    (hc : c.updatedAt = none) : (ChannelRow.ofChannel c).read = .ok c := by
  obtain ⟨id, kind, name, creatorId, createdAt, updatedAt⟩ := c
  cases hc
  simp [ChannelRow.read, ChannelRow.ofChannel, named, ChannelKind.ofName?_name, readId_text,
    readTime_stored h, readOptionalTime, bind, Except.bind, pure, Except.pure]

theorem MessageRow.read_ofMessage {m : Message} (h : m.updatedAt = none) :
    (MessageRow.ofMessage m).read = .ok m := by
  obtain ⟨id, channelId, senderId, userId, text, createdAt, updatedAt⟩ := m
  cases h
  simp [MessageRow.read, MessageRow.ofMessage, named, MessageRow.readCreatedAt, readId_text,
    readSubmittedTime_text, readOptionalTime, bind, Except.bind, pure, Except.pure]

end ChatServer.Store

