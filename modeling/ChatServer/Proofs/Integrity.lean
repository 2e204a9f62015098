import ChatServer.Proofs.Ledger

/-!
# The store stays whole

Every insertion puts its row at the end of one table, and only memberships are
ever taken away. So tables only grow, but for memberships, and with the keys
(`Tables.Keyed`) this is all that a run can do to rows that are there: it keeps
them, whatever identifiers are drawn, also ones that were drawn before.

* `Tables.Grows.apply`: an operation that succeeds keeps the rows of users,
  channels and messages.
* `perform_grows`, `run_grows`: so does every operation, and every run.
* `createChannel_outcome`: a channel comes with its first member, under an
  identifier that was free, or nothing comes.
* `store_stays_integral`: all of it, in every state that a run reaches.
-/
namespace ChatServer.Store

/-! ## Tables that grow -/

/-- The rows of one store are the first rows of another, in the tables that lose
no row. -/
structure Tables.Grows (t u : Tables) : Prop where
  users : t.users <+: u.users
  channels : t.channels <+: u.channels
  messages : t.messages <+: u.messages

namespace Tables.Grows

variable {s t u : Tables}

theorem refl (t : Tables) : t.Grows t := ⟨List.prefix_rfl, List.prefix_rfl, List.prefix_rfl⟩

theorem trans (h : s.Grows t) (h' : t.Grows u) : s.Grows u :=
  ⟨h.users.trans h'.users, h.channels.trans h'.channels, h.messages.trans h'.messages⟩

theorem insertUser {row : UserRow} (h : t.insertUser row = .ok u) : t.Grows u := by
  obtain ⟨-, -, rfl⟩ := insertUser_eq_ok.1 h
  exact ⟨List.prefix_append .., List.prefix_rfl, List.prefix_rfl⟩

theorem insertChannel {row : ChannelRow} (h : t.insertChannel row = .ok u) : t.Grows u := by
  obtain ⟨-, -, rfl⟩ := insertChannel_eq_ok.1 h
  exact ⟨List.prefix_rfl, List.prefix_append .., List.prefix_rfl⟩

theorem insertMember {row : MemberRow} (h : t.insertMember row = .ok u) : t.Grows u := by
  obtain ⟨-, -, -, rfl⟩ := insertMember_eq_ok.1 h
  exact ⟨List.prefix_rfl, List.prefix_rfl, List.prefix_rfl⟩

theorem insertMessage {row : MessageRow} (h : t.insertMessage row = .ok u) : t.Grows u := by
  obtain ⟨-, -, -, rfl⟩ := insertMessage_eq_ok.1 h
  exact ⟨List.prefix_rfl, List.prefix_rfl, List.prefix_append ..⟩

theorem eraseMember (t : Tables) (channelId userId : String) :
    t.Grows (t.eraseMember channelId userId) :=
  ⟨List.prefix_rfl, List.prefix_rfl, List.prefix_rfl⟩

/-- An operation that succeeds keeps the rows of users, channels and
messages. -/
theorem apply {op : Operation} {d : Draw} {answer : op.Answer}
    (h : op.apply d t = .ok (answer, u)) :
    t.Grows u :=
  apply_induction (P := t.Grows) (fun _ _ _ ht hi => ht.trans (insertUser hi))
    (fun _ _ _ ht hi => ht.trans (insertChannel hi)) (fun _ _ _ ht hi => ht.trans (insertMember hi))
    (fun _ _ _ ht hi => ht.trans (insertMessage hi))
    (fun t' channelId userId ht => ht.trans (eraseMember t' channelId userId)) (refl t) h

end Tables.Grows

/-- Every operation keeps the rows of users, channels and messages, whether it
succeeds or fails. -/
theorem perform_grows (db : Database) (op : Operation) (d : Draw) :
    db.tables.Grows (db.perform op d).2.tables := by
  cases h : (db.perform op d).1 with
  | error e =>
    rw [Database.perform_error h]
    exact .refl _
  | ok answer =>
    obtain ⟨-, t, ht, hafter⟩ := Database.perform_eq_ok h
    rw [hafter]
    exact .apply ht

end ChatServer.Store

namespace ChatServer.Database

open Store

theorem Holds.step_grows {db : Database} {k : Ledger} (h : db.Holds k) (s : Step) :
    db.tables.Grows (db.step s).tables := by
  cases s with
  | perform op d => exact perform_grows db op d
  | reopen =>
    -- what is opened again is of the current version, and stays as it is
    rw [h.reopen.tables, h.tables]
    exact .refl _

/-- Every run keeps the rows of users, channels and messages. -/
theorem Holds.run_grows {db : Database} {k : Ledger} (h : db.Holds k) (steps : List Step) :
    db.tables.Grows (db.run steps).tables := by
  induction steps generalizing db k with
  | nil => exact .refl _
  | cons s steps ih => exact (h.step_grows s).trans (ih (h.step s))

end ChatServer.Database

namespace ChatServer.Store

/-! ## Rows with identifiers -/

/-- The keys hold, and every row that has an identifier of its own has been
given one. -/
structure Tables.Integral (t : Tables) : Prop extends t.Keyed where
  userNamed : ∀ u ∈ t.users, u.id.isSome = true
  channelNamed : ∀ c ∈ t.channels, c.id.isSome = true
  messageNamed : ∀ m ∈ t.messages, m.id.isSome = true

theorem Ledger.Sound.integral {k : Ledger} (hk : k.Sound) : k.written.Integral where
  toKeyed := hk.keyed
  userNamed := by
    intro u hu
    obtain ⟨p, -, rfl⟩ := List.mem_map.1 hu
    rfl
  channelNamed := by
    intro c hc
    obtain ⟨c', -, rfl⟩ := List.mem_map.1 hc
    rfl
  messageNamed := by
    intro m hm
    obtain ⟨m', -, rfl⟩ := List.mem_map.1 hm
    rfl

/-! ## The creation of a channel -/

/-- The tables with a new channel and its creator as the first member. -/
def Tables.withChannel (t : Tables) (c : Channel) : Tables :=
  { t with
    channels := t.channels ++ [.ofChannel c]
    members := t.members ++ [⟨c.id.text, c.creatorId.text, c.createdAt.stored⟩] }

/-- What becomes of the store when a channel is created: it takes an identifier
that no channel has, or the creation fails and leaves nothing. -/
def CreatedOrNothing (db : Database) (result : Except Error Channel × Database) : Prop :=
  match result.1 with
  | .ok c =>
    db.tables.hasChannel c.id.text = false ∧
      result.2 = { db with tables := db.tables.withChannel c }
  | .error _ => result.2 = db

theorem createChannel_outcome (db : Database) (kind : ChannelKind) (name : String)
    (creatorId : Uuid)
    (d : Draw) : CreatedOrNothing db (db.perform (.createChannel kind name creatorId) d) := by
  rw [CreatedOrNothing]
  cases h : (db.perform (.createChannel kind name creatorId) d).1 with
  | error e => exact Database.perform_error h
  | ok c =>
    obtain ⟨-, t, ht, hafter⟩ := Database.perform_eq_ok h
    obtain ⟨id, v, hid, rfl, hc, hm⟩ := Tables.createChannel_eq_ok ht
    obtain ⟨-, -, rfl⟩ := Tables.insertChannel_eq_ok.1 hc
    obtain ⟨-, -, -, rfl⟩ := Tables.insertMember_eq_ok.1 hm
    exact ⟨Tables.freshChannelId?_unused hid, hafter⟩

/-! ## Every state of a run -/

/-- **The store stays whole.** After any operations, reopenings and draws,
identifiers and emails are each unique, whatever a row refers to is there, and
no membership stands twice. Whatever happens from then on, the rows of users,
channels and messages stay where and as they are, and a channel that is created
takes an identifier that was free, or leaves nothing behind. -/
theorem store_stays_integral (steps more : List Step) :
    (Database.empty.run steps).tables.Integral ∧
      (Database.empty.run steps).tables.Grows (Database.empty.run (steps ++ more)).tables ∧
      ∀ kind name creatorId d, CreatedOrNothing (Database.empty.run steps)
        ((Database.empty.run steps).perform (.createChannel kind name creatorId) d) := by
  have h := holds_ledgerOf steps
  refine ⟨h.tables ▸ h.sound.integral, ?_, createChannel_outcome _⟩
  have hrun : Database.empty.run (steps ++ more) = (Database.empty.run steps).run more :=
    List.foldl_append
  rw [hrun]
  exact h.run_grows more

end ChatServer.Store

