import ChatServer.Proofs.Keys
import Mathlib.Data.List.Nodup

/-!
# Runs of the store and the ledger of a run

A run is a sequence of operations, successful or not, and of reopenings of the
store. Its events are the operations with their answers. The ledger of a run is
made of the answers alone: the users and channels that were created, the
memberships, and the messages that were appended, each as it was answered.

* `Database.Holds.step`, `Database.Holds.run`: the tables are at every moment
  the written form of the ledger, and its keys are sound.
* `Ledger.Sound`: what holds of the ledger of every run.
-/
namespace ChatServer.Store

open Time

/-! ## Runs -/

inductive Step
  | perform (op : Operation) (d : Draw)
  /-- The store is closed, and opened again on what it has written. -/
  | reopen

structure Performed where
  op : Operation
  draw : Draw
  answer : Except Error op.Answer

end ChatServer.Store

namespace ChatServer.Database

open Store

/-- The store after a step. -/
def step (db : Database) : Step → Database
  | .perform op d => (db.perform op d).2
  | .reopen => .open db.tables

def run (db : Database) (steps : List Step) : Database := steps.foldl step db

def stepEvents (db : Database) : Step → List Performed
  | .perform op d => [⟨op, d, (db.perform op d).1⟩]
  | .reopen => []

/-- What happens in a run. -/
def events (db : Database) : List Step → List Performed
  | [] => []
  | s :: steps => db.stepEvents s ++ (db.step s).events steps

theorem events_append (db : Database) (steps more : List Step) :
    db.events (steps ++ more) = db.events steps ++ (db.run steps).events more := by
  induction steps generalizing db with
  | nil => rfl
  | cons s steps ih => simp only [List.cons_append, events, ih, List.append_assoc]; rfl

end ChatServer.Database

namespace ChatServer.Store

open Time

/-! ## The ledger -/

structure Membership where
  channelId : Uuid
  userId : Uuid
  joinedAt : Instant
deriving DecidableEq

/-- The row of a membership. -/
def MemberRow.ofMembership (m : Membership) : MemberRow :=
  ⟨m.channelId.text, m.userId.text, m.joinedAt.stored⟩

/-- What the answers to a run's operations say: users with their hashed
passwords, channels, memberships and messages, in the order in which they came
to be. It has identifiers and times themselves, where the tables have their
texts. -/
structure Ledger where
  users : List (User × String)
  channels : List Channel
  members : List Membership
  messages : List Message

namespace Ledger

def empty : Ledger := ⟨[], [], [], []⟩

def enter (k : Ledger) : Performed → Ledger
  | ⟨.createUser _ password, _, .ok (some user)⟩ =>
      { k with users := k.users ++ [(user, password)] }
  | ⟨.createChannel _ _ creatorId, d, .ok channel⟩ =>
    { k with
      channels := k.channels ++ [channel]
      members := k.members ++ [⟨channel.id, creatorId, d.now⟩] }
  | ⟨.addMember channelId userId, d, .ok true⟩ =>
    { k with members := k.members ++ [⟨channelId, userId, d.now⟩] }
  | ⟨.removeMember channelId userId, _, .ok _⟩ =>
    { k with members := k.members.filter fun m => !(m.channelId == channelId && m.userId == userId) }
  | ⟨.appendMessage _, _, .ok (some message)⟩ => { k with messages := k.messages ++ [message] }
  | _ => k

/-- The tables that hold what a ledger says. -/
def written (k : Ledger) : Tables where
  versions := [1, 2]
  users := k.users.map fun (user, password) => .ofUser user password
  channels := k.channels.map .ofChannel
  members := k.members.map .ofMembership
  messages := k.messages.map .ofMessage

/-- What holds of the ledger of every run. -/
structure Sound (k : Ledger) : Prop where
  keyed : k.written.Keyed
  channels : ∀ c ∈ k.channels, c.updatedAt = none
  messages : ∀ m ∈ k.messages, m.createdAt.isStorable = true ∧ m.updatedAt = none

theorem Sound.ids_nodup {k : Ledger} (hk : k.Sound) : (k.messages.map Message.id).Nodup := by
  have h := hk.keyed.messageIds
  simp only [written, List.filterMap_map, Function.comp_def, MessageRow.ofMessage,
    List.filterMap_eq_map'] at h
  exact List.Nodup.of_map Uuid.text (by rwa [List.map_map])

theorem sound_empty : empty.Sound where
  keyed := Tables.keyed_empty
  channels := by simp [empty]
  messages := by simp [empty]

/-! ## One operation -/

theorem eraseMember_written (k : Ledger) (channelId userId : Uuid) :
    k.written.eraseMember channelId.text userId.text =
      { k with members := k.members.filter fun m =>
          !(m.channelId == channelId && m.userId == userId) }.written := by
  simp only [written, Tables.eraseMember, List.filter_map, Function.comp_def,
    MemberRow.ofMembership, Uuid.text_beq]

/-- After an operation that succeeds, the tables hold what its answer says. -/
theorem written_enter {k : Ledger} {op : Operation} {d : Draw} {answer : op.Answer} {t : Tables}
    (h : op.apply d k.written = .ok (answer, t)) : (k.enter ⟨op, d, .ok answer⟩).written = t := by
  cases op with
  | createUser email password =>
    rcases Tables.createUser_eq_ok h with ⟨-, rfl, rfl⟩ | ⟨-, rfl, hi⟩
    · rfl
    · obtain ⟨-, -, rfl⟩ := Tables.insertUser_eq_ok.1 hi
      simp [enter, written]
  | createChannel kind name creatorId =>
    obtain ⟨id, v, -, rfl, hc, hm⟩ := Tables.createChannel_eq_ok h
    obtain ⟨-, -, rfl⟩ := Tables.insertChannel_eq_ok.1 hc
    obtain ⟨-, -, -, rfl⟩ := Tables.insertMember_eq_ok.1 hm
    simp [enter, written, MemberRow.ofMembership]
  | addMember channelId userId =>
    rcases Tables.addMember_eq_ok h with ⟨-, rfl, rfl⟩ | ⟨-, rfl, hi⟩
    · rfl
    · obtain ⟨-, -, -, rfl⟩ := Tables.insertMember_eq_ok.1 hi
      simp [enter, written, MemberRow.ofMembership]
  | removeMember channelId userId =>
    cases h
    exact (eraseMember_written k channelId userId).symm
  | appendMessage new =>
    rcases Tables.appendMessage_eq_ok h with ⟨-, rfl, rfl⟩ | ⟨-, rfl, hi⟩
    · rfl
    · obtain ⟨-, -, -, rfl⟩ := Tables.insertMessage_eq_ok.1 hi
      simp [enter, written]
  | getUser id => exact (Operation.asking_eq_ok.1 h).2
  | getCredentials email => exact (Operation.asking_eq_ok.1 h).2
  | getChannel id => exact (Operation.asking_eq_ok.1 h).2
  | listChannels => exact (Operation.asking_eq_ok.1 h).2
  | listMembers channelId => exact (Operation.asking_eq_ok.1 h).2
  | listMessages channelId limit before => exact (Operation.asking_eq_ok.1 h).2

/-- An operation that succeeds leaves the ledger sound. -/
theorem Sound.enter {k : Ledger} {op : Operation} {d : Draw} {answer : op.Answer} {t : Tables}
    (hk : k.Sound) (h : op.apply d k.written = .ok (answer, t)) :
    (k.enter ⟨op, d, .ok answer⟩).Sound := by
  have hkeyed : (k.enter ⟨op, d, .ok answer⟩).written.Keyed := by
    rw [written_enter h]; exact hk.keyed.apply h
  cases op with
  | createUser email password =>
    rcases Tables.createUser_eq_ok h with ⟨-, rfl, -⟩ | ⟨-, rfl, -⟩
    · exact hk
    · exact ⟨hkeyed, hk.channels, hk.messages⟩
  | createChannel kind name creatorId =>
    obtain ⟨id, v, -, rfl, -, -⟩ := Tables.createChannel_eq_ok h
    refine ⟨hkeyed, ?_, hk.messages⟩
    intro c hc
    rcases List.mem_append.1 hc with hc | hc
    · exact hk.channels c hc
    · rw [List.mem_singleton.1 hc]
  | addMember channelId userId =>
    rcases Tables.addMember_eq_ok h with ⟨-, rfl, -⟩ | ⟨-, rfl, -⟩
    · exact hk
    · exact ⟨hkeyed, hk.channels, hk.messages⟩
  | removeMember channelId userId => exact ⟨hkeyed, hk.channels, hk.messages⟩
  | appendMessage new =>
    rcases Tables.appendMessage_eq_ok h with ⟨-, rfl, -⟩ | ⟨hs, rfl, -⟩
    · exact hk
    · refine ⟨hkeyed, hk.channels, ?_⟩
      intro m hm
      rcases List.mem_append.1 hm with hm | hm
      · exact hk.messages m hm
      · rw [List.mem_singleton.1 hm]; exact ⟨hs, rfl⟩
  | getUser id => exact hk
  | getCredentials email => exact hk
  | getChannel id => exact hk
  | listChannels => exact hk
  | listMembers channelId => exact hk
  | listMessages channelId limit before => exact hk

/-- A ledger loses no channel. -/
theorem channels_enter (k : Ledger) (e : Performed) : k.channels <+: (k.enter e).channels := by
  unfold enter
  split <;> simp

theorem channels_foldl (k : Ledger) (events : List Performed) :
    k.channels <+: (events.foldl enter k).channels := by
  induction events generalizing k with
  | nil => exact List.prefix_rfl
  | cons e events ih => exact (channels_enter k e).trans (ih (k.enter e))

/-- A failure changes nothing that a ledger says. -/
theorem enter_error (k : Ledger) (op : Operation) (d : Draw) (e : Error) :
    k.enter ⟨op, d, .error e⟩ = k := by
  cases op <;> rfl

end Ledger
end ChatServer.Store

namespace ChatServer.Database

open Store

/-! ## Whole runs -/

/-- The store is sound and holds what a ledger says, as every store does that
operations have made from an empty one. -/
structure Holds (db : Database) (k : Ledger) : Prop where
  tables : db.tables = k.written
  healthy : db.poisoned = false
  sound : k.Sound

theorem holds_empty : empty.Holds .empty := ⟨rfl, rfl, Ledger.sound_empty⟩

/-- The answer of a healthy store, and the tables after it. -/
theorem perform_healthy {db : Database} (h : db.poisoned = false) (op : Operation) (d : Draw) :
    db.perform op d =
      match op.apply d db.tables with
      | .ok (answer, t) => (.ok answer, { db with tables := t })
      | .error e => (.error e, db) := by
  simp only [perform, write, h]
  cases op.apply d db.tables <;> rfl

/-- A question leaves a healthy store as it is. -/
theorem perform_asking {db : Database} (h : db.poisoned = false) {op : Operation} {d : Draw}
    {x : Except Error op.Answer} (hop : op.apply d db.tables = Operation.asking db.tables x) :
    db.perform op d = (x, db) := by
  rw [perform_healthy h, hop]
  cases x <;> rfl

/-- An operation that succeeds leaves the tables that it comes to, whatever they
were. -/
theorem perform_eq_ok {db : Database} {op : Operation} {d : Draw} {answer : op.Answer}
    (h : (db.perform op d).1 = .ok answer) :
    db.poisoned = false ∧ ∃ t, op.apply d db.tables = .ok (answer, t) ∧
      (db.perform op d).2 = { db with tables := t } := by
  unfold Database.perform Database.write at h ⊢
  cases hp : db.poisoned with
  | true => simp [hp] at h
  | false =>
    cases ha : op.apply d db.tables with
    | error e => simp [hp, ha, Except.map] at h
    | ok r =>
      obtain ⟨answer', t⟩ := r
      obtain rfl : answer' = answer := by simpa [hp, ha, Except.map] using h
      exact ⟨rfl, t, rfl, by simp [Except.map]⟩

theorem Holds.perform {db : Database} {k : Ledger} (h : db.Holds k) (op : Operation) (d : Draw) :
    (db.perform op d).2.Holds (k.enter ⟨op, d, (db.perform op d).1⟩) := by
  rw [perform_healthy h.healthy, h.tables]
  cases ha : op.apply d k.written with
  | error e => rw [Ledger.enter_error]; exact h
  | ok r => exact ⟨(Ledger.written_enter ha).symm, h.healthy, h.sound.enter ha⟩

theorem Holds.reopen {db : Database} {k : Ledger} (h : db.Holds k) : (db.step .reopen).Holds k := by
  refine ⟨?_, rfl, h.sound⟩
  have hmigrate : k.written.migrate = k.written := Tables.migrate_of_current (Nat.le_refl 2)
  rw [step, Database.open, h.tables, hmigrate]

theorem Holds.step {db : Database} {k : Ledger} (h : db.Holds k) (s : Step) :
    (db.step s).Holds ((db.stepEvents s).foldl Ledger.enter k) := by
  cases s with
  | perform op d => exact h.perform op d
  | reopen => exact h.reopen

/-- Along a run, the store holds what the ledger of the run says. -/
theorem Holds.run {db : Database} {k : Ledger} (h : db.Holds k) (steps : List Step) :
    (db.run steps).Holds ((db.events steps).foldl Ledger.enter k) := by
  induction steps generalizing db k with
  | nil => exact h
  | cons s steps ih =>
    rw [events, List.foldl_append]
    exact ih (h.step s)

end ChatServer.Database

namespace ChatServer.Store

open Time

/-! ## Clocks -/

/-- The clock of a step shows a year with four digits. -/
def Step.Timely : Step → Prop
  | .perform _ d => d.now.hasFourDigitYear = true
  | .reopen => True

/-- All times that the store's clock gave have years with four digits. -/
structure Ledger.Dated (k : Ledger) : Prop where
  users : ∀ p ∈ k.users, p.1.createdAt.hasFourDigitYear = true
  channels : ∀ c ∈ k.channels, c.createdAt.hasFourDigitYear = true

theorem Ledger.dated_empty : empty.Dated := ⟨by simp [empty], by simp [empty]⟩

theorem Ledger.Dated.enter {k : Ledger} {op : Operation} {d : Draw} {answer : op.Answer}
    {t : Tables} (hk : k.Dated) (hd : d.now.hasFourDigitYear = true)
    (h : op.apply d k.written = .ok (answer, t)) :
    (k.enter ⟨op, d, .ok answer⟩).Dated := by
  cases op with
  | createUser email password =>
    rcases Tables.createUser_eq_ok h with ⟨-, rfl, -⟩ | ⟨-, rfl, -⟩
    · exact hk
    · refine ⟨?_, hk.channels⟩
      intro p hp
      rcases List.mem_append.1 hp with hp | hp
      · exact hk.users p hp
      · rw [List.mem_singleton.1 hp]; exact hd
  | createChannel kind name creatorId =>
    obtain ⟨id, v, -, rfl, -, -⟩ := Tables.createChannel_eq_ok h
    refine ⟨hk.users, ?_⟩
    intro c hc
    rcases List.mem_append.1 hc with hc | hc
    · exact hk.channels c hc
    · rw [List.mem_singleton.1 hc]; exact hd
  | addMember channelId userId => cases answer <;> exact ⟨hk.users, hk.channels⟩
  | removeMember channelId userId => exact ⟨hk.users, hk.channels⟩
  | appendMessage new => cases answer <;> exact ⟨hk.users, hk.channels⟩
  | getUser id => exact hk
  | getCredentials email => exact hk
  | getChannel id => exact hk
  | listChannels => exact hk
  | listMembers channelId => exact hk
  | listMessages channelId limit before => exact hk

theorem Ledger.Dated.step {db : Database} {k : Ledger} (h : db.Holds k) (hk : k.Dated) {s : Step}
    (hs : s.Timely) : ((db.stepEvents s).foldl Ledger.enter k).Dated := by
  cases s with
  | reopen => exact hk
  | perform op d =>
    simp only [Database.stepEvents, List.foldl_cons, List.foldl_nil]
    rw [Database.perform_healthy h.healthy, h.tables]
    cases ha : op.apply d k.written with
    | error e => rw [Ledger.enter_error]; exact hk
    | ok r => exact hk.enter hs ha

theorem Ledger.Dated.run {db : Database} {k : Ledger} (h : db.Holds k) (hk : k.Dated)
    {steps : List Step} (hsteps : ∀ s ∈ steps, s.Timely) :
    ((db.events steps).foldl Ledger.enter k).Dated := by
  induction steps generalizing db k with
  | nil => exact hk
  | cons s steps ih =>
    rw [Database.events, List.foldl_append]
    exact ih (h.step s) (hk.step h (hsteps s List.mem_cons_self)) fun s' hs' =>
      hsteps s' (List.mem_cons_of_mem s hs')

/-- The ledger of a run. -/
def ledgerOf (steps : List Step) : Ledger := (Database.empty.events steps).foldl Ledger.enter .empty

theorem holds_ledgerOf (steps : List Step) : (Database.empty.run steps).Holds (ledgerOf steps) :=
  Database.holds_empty.run steps

/-! ## A small run -/

def sampleId (n : Nat) : Uuid := .ofNat n

def sampleNoon : Instant :=
  ⟨⟨2024, 6, 11, by decide, by decide, by decide⟩, 43200, 0, by decide, by decide, by decide⟩

def sampleDraw (n : Nat) : Draw := ⟨sampleId n, [], sampleNoon⟩

/-- A message of noon to the channel of the small run. -/
def samplePost (n : Nat) : Step :=
  .perform (.appendMessage ⟨sampleId 2, sampleId 9, sampleId 1, "hello", .ofInstant sampleNoon⟩)
    (sampleDraw n)

/-- A user, a channel and two messages of one time. -/
def sampleSteps : List Step :=
  [.perform (.createUser "a@test.com" "hash") (sampleDraw 1),
    .perform (.createChannel .publicRoom "room" (sampleId 1)) (sampleDraw 2), samplePost 3,
      samplePost 4]

end ChatServer.Store

