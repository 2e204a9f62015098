import ChatServer.Store.Users

/-!
# Channels and members in the store

Creating and listing channels, and the users who belong to them. The creator is
the first member. Channels are listed by the text of their creation time,
members by the text of the time they joined and then by identifier.

* `createChannel_eq_ok`, `addMember_eq_ok`: what a creation and a joining do
  when they succeed.
* `freshChannelId?_unused`: a new channel never takes an identifier in use.
-/
namespace ChatServer.Store

open Time

namespace Tables

def channelById? (t : Tables) (id : String) : Option ChannelRow :=
    t.channels.find? (·.id == some id)

/-- The first of the identifiers at hand that no channel has. -/
def freshChannelId? (t : Tables) (d : Draw) : Option Uuid :=
  (d.id :: d.spare).find? fun id => !t.hasChannel id.text

/-- Creates a channel with its creator as a member, or changes nothing: where no
user has the identifier of the creator there is no channel either. -/
def createChannel (t : Tables) (d : Draw) (kind : ChannelKind) (name : String) (creatorId : Uuid) :
    Except Error (Channel × Tables) :=
  match t.freshChannelId? d with
  | none => .error .noFreshId
  | some id => do
    let channel : Channel := ⟨id, kind, name, creatorId, d.now, none⟩
    let t ← t.insertChannel (.ofChannel channel)
    let t ← t.insertMember ⟨id.text, creatorId.text, d.now.stored⟩
    return (channel, t)

def getChannel (t : Tables) (id : Uuid) : Except Error (Option Channel) :=
  match t.channelById? id.text with
  | none => .ok none
  | some row => row.read.map some

def channelRows (t : Tables) : List ChannelRow :=
  t.channels.mergeSort fun a b => a.createdAt ≤ b.createdAt

/-- All channels, by creation time. A channel without an identifier counts
before all else that is wrong with a row. -/
def listChannels (t : Tables) : Except Error (List Channel) := do
  let _ ← t.channelRows.mapM fun row => named row.id
  t.channelRows.mapM ChannelRow.read

/-- Makes a user a member; false when the user is one already. A membership that
is there keeps the time since which it has been. -/
def addMember (t : Tables) (channelId userId : Uuid) (now : Instant) :
    Except Error (Bool × Tables) :=
  if t.hasMember channelId.text userId.text then .ok (false, t)
  else do
    let t ← t.insertMember ⟨channelId.text, userId.text, now.stored⟩
    return (true, t)

/-- Ends a membership; false when there was none. -/
def removeMember (t : Tables) (channelId userId : Uuid) : Bool × Tables :=
  (t.hasMember channelId.text userId.text, t.eraseMember channelId.text userId.text)

/-- A membership comes before another: it began earlier, or its user's
identifier is smaller. -/
def joinedBefore (a b : MemberRow) : Bool :=
  a.joinedAt < b.joinedAt || (a.joinedAt == b.joinedAt && a.userId ≤ b.userId)

def memberRows (t : Tables) (channelId : String) : List MemberRow :=
  (t.members.filter (·.channelId == channelId)).mergeSort joinedBefore

/-- The members of a channel, by the time they joined. -/
def listMembers (t : Tables) (channelId : Uuid) : Except Error (List Uuid) :=
  (t.memberRows channelId.text).mapM fun m => readId m.userId

theorem freshChannelId?_unused {t : Tables} {d : Draw} {id : Uuid}
    (h : t.freshChannelId? d = some id) : t.hasChannel id.text = false := by
  simpa using List.find?_some h

/-- A channel that is created takes an identifier that is free, and its creator
becomes a member. -/
theorem createChannel_eq_ok {t u : Tables} {d : Draw} {kind : ChannelKind} {name : String}
    {creatorId : Uuid} {c : Channel} (h : t.createChannel d kind name creatorId = .ok (c, u)) :
    ∃ id v, t.freshChannelId? d = some id ∧ c = ⟨id, kind, name, creatorId, d.now, none⟩ ∧
      t.insertChannel (.ofChannel c) = .ok v ∧
      v.insertMember ⟨id.text, creatorId.text, d.now.stored⟩ = .ok u := by
  unfold createChannel at h
  split at h
  · cases h
  · next id hid =>
    obtain ⟨v, hv, h⟩ := bind_eq_ok.1 h
    obtain ⟨w, hw, he⟩ := bind_eq_ok.1 h
    cases he
    exact ⟨id, v, hid, rfl, hv, hw⟩

/-- A user who joins was a member already, or a membership is added. -/
theorem addMember_eq_ok {t u : Tables} {channelId userId : Uuid} {now : Instant} {answer : Bool}
    (h : t.addMember channelId userId now = .ok (answer, u)) :
    (t.hasMember channelId.text userId.text = true ∧ answer = false ∧ t = u) ∨
      (t.hasMember channelId.text userId.text = false ∧ answer = true ∧
        t.insertMember ⟨channelId.text, userId.text, now.stored⟩ = .ok u) := by
  unfold addMember at h
  split at h
  · next hm => cases h; exact .inl ⟨hm, rfl, rfl⟩
  · next hm =>
    obtain ⟨v, hv, he⟩ := bind_eq_ok.1 h
    cases he
    exact .inr ⟨by simpa using hm, rfl, hv⟩

end Tables
end ChatServer.Store

