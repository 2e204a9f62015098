import ChatServer.Proofs.Members

/-!
# Operations that succeed

When the store carries out what a handler asks for. A user who is there, a
channel that is there and an identifier that is free are enough for the keys,
and rows that a timely run has written convert back.

* `Database.perform_addMember_again`, `Database.perform_addMember_new`,
  `Database.perform_removeMember`: what joining and leaving come to.
* `perform_getChannel_eq`, `perform_getChannel`: a channel is found when it has
  a row.
* `perform_createChannel`, `perform_addMember`, `perform_appendMessage`: no key
  stands in the way.
-/
namespace ChatServer.Database

open Store

section
variable (db : Database) (h : db.poisoned = false) (channelId userId : Uuid) (d : Draw)
include h

/-- Who is a member already joins without a trace. -/
theorem perform_addMember_again (hmember : db.tables.hasMember channelId.text userId.text = true) :
    db.perform (.addMember channelId userId) d = (.ok false, db) := by
  have hadd : Operation.apply (.addMember channelId userId) d db.tables = .ok (false, db.tables) :=
    if_pos hmember
  rw [perform_healthy h, hadd]

/-- Who is not a member joins if the channel and the user are there. -/
theorem perform_addMember_new (hnew : db.tables.hasMember channelId.text userId.text = false) :
    db.perform (.addMember channelId userId) d =
      if db.tables.hasChannel channelId.text && db.tables.hasUser userId.text then
        (.ok true, { db with tables := { db.tables with
          members := db.tables.members ++ [⟨channelId.text, userId.text, d.now.stored⟩] } })
      else (.error .foreignKey, db) := by
  rw [perform_healthy h]
  simp only [Operation.apply, Tables.addMember, Tables.insertMember, hnew,
    Bool.false_eq_true, if_false]
  cases db.tables.hasChannel channelId.text && db.tables.hasUser userId.text <;> rfl

theorem perform_removeMember : db.perform (.removeMember channelId userId) d =
    (.ok (db.tables.hasMember channelId.text userId.text),
      { db with tables := db.tables.eraseMember channelId.text userId.text }) := by
  rw [perform_healthy h]
  rfl

end

end ChatServer.Database

namespace ChatServer.Store

def Ledger.channel? (k : Ledger) (id : Uuid) : Option Channel := k.channels.find? (·.id == id)

theorem Ledger.channelById?_written (k : Ledger) (id : Uuid) :
    k.written.channelById? id.text = (k.channel? id).map .ofChannel := by
  rw [Tables.channelById?, written, List.find?_map]
  simp only [Function.comp_def, ChannelRow.ofChannel, Option.some_beq_some, Uuid.text_beq, channel?]

section
variable {db : Database} {k : Ledger} (h : db.Holds k)
include h

/-- The channel with an identifier is found, and readable if the clock was when
channels were created. -/
theorem perform_getChannel_eq (hk : k.Dated) (id : Uuid) (d : Draw) :
    db.perform (.getChannel id) d = (.ok (k.channel? id), db) := by
  rw [Database.perform_asking h.healthy rfl, h.tables, Tables.getChannel,
    Ledger.channelById?_written]
  cases hfind : k.channel? id with
  | none => rfl
  | some c =>
    have hc := List.mem_of_find?_eq_some hfind
    simp only [Option.map_some,
      ChannelRow.read_ofChannel (hk.channels c hc) (h.sound.channels c hc), Except.map]

/-- A channel is found when it has a row. -/
theorem perform_getChannel (hk : k.Dated) (id : Uuid) (d : Draw) :
    ∃ found, db.perform (.getChannel id) d = (.ok found, db) ∧
      found.isSome = db.tables.hasChannel id.text := by
  refine ⟨_, perform_getChannel_eq h hk id d, ?_⟩
  rw [← Option.isSome_map (f := ChannelRow.ofChannel), ← Ledger.channelById?_written, ← h.tables,
    Tables.channelById?, List.isSome_find?, Tables.hasChannel]

/-- A user who is there can create a channel, with an identifier that is
free. -/
theorem perform_createChannel {creatorId : Uuid}
    (hcreator : db.tables.hasUser creatorId.text = true)
    {d : Draw} (hfresh : db.tables.hasChannel d.id.text = false) (kind : ChannelKind)
    (name : String) :
    (db.perform (.createChannel kind name creatorId) d).1 =
      .ok ⟨d.id, kind, name, creatorId, d.now, none⟩ := by
  have hkeyed : db.tables.Keyed := h.tables ▸ h.sound.keyed
  have hid : db.tables.freshChannelId? d = some d.id := by
    rw [Tables.freshChannelId?, List.find?_cons_of_pos (by simpa using hfresh)]
  have hchannel : db.tables.insertChannel (.ofChannel ⟨d.id, kind, name, creatorId, d.now, none⟩) =
      .ok _ := Tables.insertChannel_eq_ok.2 ⟨hfresh, hcreator, rfl⟩
  have hmember : Tables.insertMember
      { db.tables with
        channels := db.tables.channels ++ [.ofChannel ⟨d.id, kind, name, creatorId, d.now, none⟩] }
      ⟨d.id.text, creatorId.text, d.now.stored⟩ = .ok _ :=
    Tables.insertMember_eq_ok.2 ⟨hasMember_of_absent hkeyed hfresh creatorId.text,
      by simp [Tables.hasChannel, ChannelRow.ofChannel], hcreator, rfl⟩
  rw [Database.perform_healthy h.healthy]
  simp only [Operation.apply, Tables.createChannel, hid, hchannel, hmember, bind, Except.bind, pure,
    Except.pure]

/-- A user who is there can be made a member of a channel that is there. -/
theorem perform_addMember {channelId userId : Uuid} (huser : db.tables.hasUser userId.text = true)
    (hchannel : db.tables.hasChannel channelId.text = true) (d : Draw) :
    ∃ added, (db.perform (.addMember channelId userId) d).1 = .ok added := by
  cases hmember : db.tables.hasMember channelId.text userId.text with
  | true =>
    refine ⟨false, ?_⟩
    rw [db.perform_addMember_again h.healthy channelId userId d hmember]
  | false =>
    refine ⟨true, ?_⟩
    rw [db.perform_addMember_new h.healthy channelId userId d hmember, hchannel, huser,
      Bool.and_self, if_pos rfl]

/-- A user who is there can post to a channel, with an identifier that is free
and a time that can be stored. -/
theorem perform_appendMessage (new : NewMessage) (huser : db.tables.hasUser new.userId.text = true)
    (htime : new.createdAt.isStorable = true) {d : Draw}
    (hfresh : db.tables.hasMessage d.id.text = false) :
    ∃ posted, (db.perform (.appendMessage new) d).1 = .ok posted ∧
      posted.isSome = db.tables.hasChannel new.channelId.text := by
  rw [Database.perform_healthy h.healthy]
  cases hchannel : db.tables.hasChannel new.channelId.text with
  | false => exact ⟨none, by simp [Operation.apply, Tables.appendMessage, hchannel]⟩
  | true =>
    have hinsert : db.tables.insertMessage (.ofMessage (new.toMessage d.id)) = .ok _ :=
      Tables.insertMessage_eq_ok.2 ⟨hfresh, hchannel, huser, rfl⟩
    exact ⟨some (new.toMessage d.id), by simp [Operation.apply, Tables.appendMessage, hchannel, htime,
      hinsert, bind, Except.bind, pure, Except.pure]⟩

end

end ChatServer.Store

