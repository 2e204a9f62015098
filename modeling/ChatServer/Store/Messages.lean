import ChatServer.Store.Channels

/-!
# Messages in the store

Appending messages and reading them page by page. The messages of a channel are
ordered by the stored form of their time, and those of the same time by when
they were appended; a page is a run of this order that ends before a message
that the caller has.

* `appendMessage_eq_ok`: a message to a channel that is not there changes
  nothing; otherwise one row is added.
-/
namespace ChatServer.Store

open Time

structure NewMessage where
  channelId : Uuid
  senderId : Uuid
  userId : Uuid
  text : String
  createdAt : Timestamp

/-- The message that a new message becomes. -/
def NewMessage.toMessage (new : NewMessage) (id : Uuid) : Message :=
  ⟨id, new.channelId, new.senderId, new.userId, new.text, new.createdAt, none⟩

/-- The last elements of a list, at most `n`. -/
def lastItems {α : Type} (n : Nat) (xs : List α) : List α := xs.drop (xs.length - n)

namespace Tables

/-- Appends a message; none when the channel is not there. The channel is looked
for first: a time that cannot be ordered is an error only in a channel that
exists. -/
def appendMessage (t : Tables) (id : Uuid) (new : NewMessage) :
    Except Error (Option Message × Tables) :=
  if !t.hasChannel new.channelId.text then .ok (none, t)
  else if !new.createdAt.isStorable then .error (.unstorable new.createdAt.text)
  else do
    let message := new.toMessage id
    let t ← t.insertMessage (.ofMessage message)
    return (some message, t)

/-- The messages of a channel in order: by stored time, then as they were
appended. -/
def history (t : Tables) (channelId : String) : List MessageRow :=
  (t.messages.filter (·.channelId == channelId)).mergeSort fun a b => a.createdAt ≤ b.createdAt

/-- The messages of a channel that come before one of them; all without one, and
none before a message that the channel does not have. -/
def earlier (t : Tables) (channelId : String) (before : Option String) : List MessageRow :=
  let rows := t.history channelId
  match before with
  | none => rows
  | some id => if rows.any (·.id == some id) then rows.takeWhile (·.id != some id) else []

/-- The last messages before a message of the channel, or of the whole channel,
oldest first. -/
def page (t : Tables) (channelId : String) (limit : Nat) (before : Option String) :
    List MessageRow :=
  lastItems limit (t.earlier channelId before)

/-- A page of a channel's messages. A message without an identifier counts
before all else that is wrong with a row. -/
def listMessages (t : Tables) (channelId : Uuid) (limit : Nat) (before : Option Uuid) :
    Except Error (List Message) := do
  let rows := t.page channelId.text limit (before.map Uuid.text)
  let _ ← rows.mapM fun row => named row.id
  rows.mapM MessageRow.read

/-- Forgets the submitted text of a message's time; gives the number of messages
changed. -/
def clearSubmittedTime (t : Tables) (id : String) : Nat × Tables :=
  (t.messages.countP (·.id == some id),
    { t with
      messages := t.messages.map fun m =>
        if m.id == some id then { m with createdAtText := none } else m })

/-- A message that succeeds to be appended found its channel missing, or adds
one row. -/
theorem appendMessage_eq_ok {t u : Tables} {id : Uuid} {new : NewMessage} {answer : Option Message}
    (h : t.appendMessage id new = .ok (answer, u)) :
    (t.hasChannel new.channelId.text = false ∧ answer = none ∧ t = u) ∨
      (new.createdAt.isStorable = true ∧ answer = some (new.toMessage id) ∧
        t.insertMessage (.ofMessage (new.toMessage id)) = .ok u) := by
  unfold appendMessage at h
  split at h
  · next hc => cases h; exact .inl ⟨by simpa using hc, rfl, rfl⟩
  · split at h
    · cases h
    · next hs =>
      obtain ⟨v, hv, he⟩ := bind_eq_ok.1 h
      cases he
      exact .inr ⟨by simpa using hs, rfl, hv⟩

end Tables
end ChatServer.Store

