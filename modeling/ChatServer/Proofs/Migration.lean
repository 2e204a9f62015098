import ChatServer.Proofs.Integrity
import Mathlib.Data.List.Induction

/-!
# From the first version of the schema to the second

A store that the first version left is brought to the second when it is opened,
once: its rows stay, each with its columns and in its place, and no message has
a submitted time. From then on it cannot be told from a store that was set up in
the second version and holds the same rows. This is a simulation: what an
operation answers and does to rows never depends on the versions
(`Operation.apply_withVersions`), and a store of the current version stays as it
is when it is opened again.

* `Operation.apply_withVersions`: an operation sees and changes rows alone.
* `Database.Alike.step`, `Database.Alike.events`: stores with the same rows
  answer alike, step by step and along every run.
* `Tables.copy_empty`: rows that keep their keys can be put into a new store one
  by one.
* `migration_keeps_store`: all of it, for every store of the first version.
-/
namespace ChatServer.Store

/-! ## Rows and versions -/

namespace Tables

/-- The same rows in a store with other versions. -/
def withVersions (t : Tables) (versions : List Nat) : Tables := { t with versions := versions }

/-- The tables hold the same rows in the same order, whatever versions they went
through. -/
def SameRows (t u : Tables) : Prop := t.withVersions u.versions = u

/-- The second version of the schema, or a later one, has been set up. -/
def Current (t : Tables) : Prop := 2 ≤ t.versions.foldl max 0

/-! What the tables do to rows they do in every version. -/

theorem insertUser_withVersions (t : Tables) (vs : List Nat) (row : UserRow) :
    (t.withVersions vs).insertUser row = (t.insertUser row).map (·.withVersions vs) := by
  rw [insertUser, insertUser, apply_ite (Except.map _), apply_ite (Except.map _)]
  rfl

theorem insertChannel_withVersions (t : Tables) (vs : List Nat) (row : ChannelRow) :
    (t.withVersions vs).insertChannel row = (t.insertChannel row).map (·.withVersions vs) := by
  rw [insertChannel, insertChannel, apply_ite (Except.map _), apply_ite (Except.map _)]
  rfl

theorem insertMember_withVersions (t : Tables) (vs : List Nat) (row : MemberRow) :
    (t.withVersions vs).insertMember row = (t.insertMember row).map (·.withVersions vs) := by
  rw [insertMember, insertMember, apply_ite (Except.map _), apply_ite (Except.map _)]
  rfl

theorem insertMessage_withVersions (t : Tables) (vs : List Nat) (row : MessageRow) :
    (t.withVersions vs).insertMessage row = (t.insertMessage row).map (·.withVersions vs) := by
  rw [insertMessage, insertMessage, apply_ite (Except.map _), apply_ite (Except.map _)]
  rfl

theorem createUser_withVersions (t : Tables) (vs : List Nat) (d : Draw) (email password : String) :
    (t.withVersions vs).createUser d email password =
      (t.createUser d email password).map (Prod.map id (·.withVersions vs)) := by
  have hfind : (t.withVersions vs).userByEmail? email = t.userByEmail? email := rfl
  simp only [createUser, hfind]
  cases t.userByEmail? email with
  | some row =>
    dsimp only
    cases named row.id <;> rfl
  | none =>
    simp only [insertUser_withVersions]
    cases t.insertUser (.ofUser ⟨d.id, email, d.now⟩ password) <;> rfl

theorem createChannel_withVersions (t : Tables) (vs : List Nat) (d : Draw) (kind : ChannelKind)
    (name : String) (creatorId : Uuid) :
    (t.withVersions vs).createChannel d kind name creatorId =
      (t.createChannel d kind name creatorId).map (Prod.map id (·.withVersions vs)) := by
  have hfresh : (t.withVersions vs).freshChannelId? d = t.freshChannelId? d := rfl
  simp only [createChannel, hfresh]
  cases t.freshChannelId? d with
  | none => rfl
  | some id =>
    simp only [insertChannel_withVersions]
    cases t.insertChannel (.ofChannel ⟨id, kind, name, creatorId, d.now, none⟩) with
    | error e => rfl
    | ok u =>
      simp only [Except.map, bind, Except.bind, insertMember_withVersions]
      cases u.insertMember ⟨id.text, creatorId.text, d.now.stored⟩ <;> rfl

theorem addMember_withVersions (t : Tables) (vs : List Nat) (channelId userId : Uuid)
    (now : Time.Instant) :
    (t.withVersions vs).addMember channelId userId now =
      (t.addMember channelId userId now).map (Prod.map id (·.withVersions vs)) := by
  rw [addMember, addMember, apply_ite (Except.map _), insertMember_withVersions]
  cases t.insertMember ⟨channelId.text, userId.text, now.stored⟩ <;> rfl

theorem appendMessage_withVersions (t : Tables) (vs : List Nat) (drawn : Uuid) (new : NewMessage) :
    (t.withVersions vs).appendMessage drawn new =
      (t.appendMessage drawn new).map (Prod.map id (·.withVersions vs)) := by
  rw [appendMessage, appendMessage, apply_ite (Except.map _), apply_ite (Except.map _)]
  simp only [insertMessage_withVersions]
  cases t.insertMessage (.ofMessage (new.toMessage drawn)) <;> rfl

end Tables

namespace Operation

/-- An operation's answer is that of the same rows in any version, and so are
the rows after it. -/
theorem apply_withVersions (op : Operation) (d : Draw) (t : Tables) (vs : List Nat) :
    op.apply d (t.withVersions vs) =
      (op.apply d t).map (Prod.map id (·.withVersions vs)) := by
  -- a question is answered from the rows, and gives back the tables it was asked of
  have ask {α : Type} (x : Except Error α) :
      asking (t.withVersions vs) x = (asking t x).map (Prod.map id (·.withVersions vs)) := by
    cases x <;> rfl
  cases op with
  | createUser email password => exact t.createUser_withVersions vs d email password
  | createChannel kind name creatorId => exact t.createChannel_withVersions vs d kind name creatorId
  | addMember channelId userId => exact t.addMember_withVersions vs channelId userId d.now
  | removeMember channelId userId => rfl
  | appendMessage new => exact t.appendMessage_withVersions vs d.id new
  | getUser id => exact ask _
  | getCredentials email => exact ask _
  | getChannel id => exact ask _
  | listChannels => exact ask _
  | listMembers channelId => exact ask _
  | listMessages channelId limit before => exact ask _

/-- No operation sets up a version. -/
theorem versions_apply {op : Operation} {d : Draw} {t u : Tables} {answer : op.Answer}
    (h : op.apply d t = .ok (answer, u)) : u.versions = t.versions := by
  refine Tables.apply_induction (P := fun u => u.versions = t.versions) ?_ ?_ ?_ ?_ ?_ rfl h
  · rintro v w row hv hi
    obtain ⟨-, -, rfl⟩ := Tables.insertUser_eq_ok.1 hi
    exact hv
  · rintro v w row hv hi
    obtain ⟨-, -, rfl⟩ := Tables.insertChannel_eq_ok.1 hi
    exact hv
  · rintro v w row hv hi
    obtain ⟨-, -, -, rfl⟩ := Tables.insertMember_eq_ok.1 hi
    exact hv
  · rintro v w row hv hi
    obtain ⟨-, -, -, rfl⟩ := Tables.insertMessage_eq_ok.1 hi
    exact hv
  · exact fun v channelId userId hv => hv

end Operation
end ChatServer.Store

namespace ChatServer.Database

open Store

/-! ## Runs of stores of the current version -/

variable {db other : Database}

theorem versions_perform (db : Database) (op : Operation) (d : Draw) :
    (db.perform op d).2.tables.versions = db.tables.versions := by
  cases h : (db.perform op d).1 with
  | error e => rw [perform_error h]
  | ok answer =>
    obtain ⟨-, t, ht, hafter⟩ := perform_eq_ok h
    rw [hafter]
    exact op.versions_apply ht

/-- No operation fails inside the lock. -/
theorem poisoned_perform (db : Database) (op : Operation) (d : Draw) :
    (db.perform op d).2.poisoned = db.poisoned := by
  cases h : (db.perform op d).1 with
  | error e => rw [perform_error h]
  | ok answer =>
    obtain ⟨-, t, -, hafter⟩ := perform_eq_ok h
    rw [hafter]

/-- A store of the current version whose lock is sound. -/
structure UpToDate (db : Database) : Prop where
  current : db.tables.Current
  healthy : db.poisoned = false

/-- What is of the current version stays as it is when it is opened again. -/
theorem UpToDate.step_reopen (h : db.UpToDate) : db.step .reopen = db := by
  rw [Database.step, Database.open, Tables.migrate_of_current h.current, ← h.healthy]

/-- A store of the current version sets up no version in any step, and is up to
date after it. -/
theorem UpToDate.step (h : db.UpToDate) (s : Step) :
    (db.step s).tables.versions = db.tables.versions ∧ (db.step s).UpToDate := by
  cases s with
  | perform op d =>
    have hv := versions_perform db op d
    exact ⟨hv, (congrArg (2 ≤ List.foldl max 0 ·) hv).mpr h.current,
      (poisoned_perform db op d).trans h.healthy⟩
  | reopen =>
    rw [h.step_reopen]
    exact ⟨rfl, h⟩

theorem UpToDate.run (h : db.UpToDate) (steps : List Step) :
    (db.run steps).tables.versions = db.tables.versions ∧ (db.run steps).UpToDate := by
  induction steps generalizing db with
  | nil => exact ⟨rfl, h⟩
  | cons s steps ih =>
    obtain ⟨hv, hs⟩ := h.step s
    exact ⟨(ih hs).1.trans hv, (ih hs).2⟩

theorem UpToDate.step_grows (h : db.UpToDate) (s : Step) : db.tables.Grows (db.step s).tables := by
  cases s with
  | perform op d => exact perform_grows db op d
  | reopen =>
    rw [h.step_reopen]
    exact .refl _

theorem UpToDate.run_grows (h : db.UpToDate) (steps : List Step) :
    db.tables.Grows (db.run steps).tables := by
  induction steps generalizing db with
  | nil => exact .refl _
  | cons s steps ih => exact (h.step_grows s).trans (ih (h.step s).2)

/-! ## Stores that cannot be told apart -/

/-- Two stores of the current version hold the same rows. -/
structure Alike (db other : Database) : Prop where
  left : db.UpToDate
  right : other.UpToDate
  rows : db.tables.SameRows other.tables

/-- A step of one store is a step of the other: what happens is the same, and so
are the rows. -/
theorem Alike.step (h : db.Alike other) (s : Step) :
    db.stepEvents s = other.stepEvents s ∧ (db.step s).Alike (other.step s) := by
  cases s with
  | reopen =>
    rw [h.left.step_reopen, h.right.step_reopen]
    exact ⟨rfl, h⟩
  | perform op d =>
    have hboth : (other.perform op d).1 = (db.perform op d).1 ∧
        (db.perform op d).2.tables.withVersions other.tables.versions =
          (other.perform op d).2.tables := by
      rw [perform_healthy h.left.healthy, perform_healthy h.right.healthy, ← h.rows,
        op.apply_withVersions]
      cases op.apply d db.tables with
      | error e => exact ⟨rfl, h.rows⟩
      | ok r => exact ⟨rfl, rfl⟩
    refine ⟨?_, (h.left.step (.perform op d)).2, (h.right.step (.perform op d)).2, ?_⟩
    · simp only [stepEvents, hboth.1]
    · rw [Tables.SameRows, ((h.right.step (.perform op d)).1)]
      exact hboth.2

/-- Along every run the stores answer the same, and hold the same rows. -/
theorem Alike.events (h : db.Alike other) (steps : List Step) :
    db.events steps = other.events steps ∧ (db.run steps).Alike (other.run steps) := by
  induction steps generalizing db other with
  | nil => exact ⟨rfl, h⟩
  | cons s steps ih =>
    obtain ⟨hs, halike⟩ := h.step s
    obtain ⟨hrest, hrun⟩ := ih halike
    exact ⟨by rw [Database.events, Database.events, hs, hrest], hrun⟩

end ChatServer.Database

namespace ChatServer.Store.Tables

/-! ## Rows put into a new store -/

/-- Puts the rows of one store into another, one insertion after the other,
table by table. -/
def copy (rows t : Tables) : Except Error Tables := do
  let t ← rows.users.foldlM insertUser t
  let t ← rows.channels.foldlM insertChannel t
  let t ← rows.members.foldlM insertMember t
  rows.messages.foldlM insertMessage t

/-- Steps that succeed on each element from the state that the elements before
it lead to succeed on the list. -/
theorem foldlM_eq_ok {ε α β : Type} {f : β → α → Except ε β} {s : List α → β} {xs : List α}
    (h : ∀ done x rest, xs = done ++ x :: rest → f (s done) x = .ok (s (done ++ [x]))) :
    xs.foldlM f (s []) = .ok (s xs) := by
  induction xs using List.reverseRecOn with
  | nil => rfl
  | append_singleton xs x ih =>
    have hinit := ih fun done y rest he => h done y (rest ++ [x]) (by simp [he])
    have hlast := h xs x [] rfl
    simp only [List.foldlM_append, List.foldlM_cons, List.foldlM_nil, hinit, hlast, bind,
      Except.bind]
    rfl

/-- Where keys are distinct, no row before a row has its key. -/
theorem key_unused {α : Type} {key : α → Option String} {done rest : List α} {row : α}
    (h : ((done ++ row :: rest).filterMap key).Nodup) :
    ((key row).any fun id => done.any (key · == some id)) = false := by
  cases hk : key row with
  | none => rfl
  | some id =>
    rw [List.filterMap_append, List.filterMap_cons_some hk, List.nodup_append] at h
    simp only [Option.any_some, List.any_eq_false, beq_iff_eq]
    intro r hr hrid
    exact h.2.2 id (List.mem_filterMap.2 ⟨r, hr, hrid⟩) id List.mem_cons_self rfl

/-- Rows that keep what the keys promise can be put into a new store, which then
holds them. -/
theorem copy_empty {rows : Tables} (hk : rows.Keyed) :
    rows.copy empty = .ok (rows.withVersions empty.versions) := by
  have husers : rows.users.foldlM insertUser empty = .ok { empty with users := rows.users } := by
    refine foldlM_eq_ok (s := fun users => { empty with users := users }) ?_
    intro done row rest he
    refine insertUser_eq_ok.2 ⟨?_, key_unused (he ▸ hk.userIds), rfl⟩
    have hemails := hk.emails
    rw [he, List.map_append, List.nodup_append] at hemails
    simp only [List.any_eq_false, beq_iff_eq]
    exact fun r hr => hemails.2.2 r.email (List.mem_map_of_mem hr) row.email (by simp)
  have hchannels : rows.channels.foldlM insertChannel { empty with users := rows.users } =
      .ok { empty with users := rows.users, channels := rows.channels } := by
    refine foldlM_eq_ok
      (s := fun channels => { empty with users := rows.users, channels := channels }) ?_
    intro done row rest he
    exact insertChannel_eq_ok.2
      ⟨key_unused (he ▸ hk.channelIds), hk.creators row (by simp [he]), rfl⟩
  have hmembers : rows.members.foldlM insertMember
      { empty with users := rows.users, channels := rows.channels } =
      .ok { rows.withVersions empty.versions with messages := [] } := by
    refine foldlM_eq_ok (s := fun members =>
      { rows.withVersions empty.versions with members := members, messages := [] }) ?_
    intro done row rest he
    obtain ⟨hchannel, huser⟩ := hk.members row (by simp [he])
    refine insertMember_eq_ok.2 ⟨?_, hchannel, huser, rfl⟩
    have hdistinct := hk.memberships
    rw [he, List.map_append, List.nodup_append] at hdistinct
    simp only [hasMember, List.any_eq_false, Bool.and_eq_true, beq_iff_eq, not_and]
    intro m hm hc hu
    exact hdistinct.2.2 (m.channelId, m.userId) (List.mem_map.2 ⟨m, hm, rfl⟩)
      (row.channelId, row.userId) (by simp) (by rw [hc, hu])
  have hmessages : rows.messages.foldlM insertMessage
      { rows.withVersions empty.versions with messages := [] } =
      .ok (rows.withVersions empty.versions) := by
    refine foldlM_eq_ok
      (s := fun messages => { rows.withVersions empty.versions with messages := messages }) ?_
    intro done row rest he
    obtain ⟨hchannel, huser⟩ := hk.messages row (by simp [he])
    exact insertMessage_eq_ok.2 ⟨key_unused (he ▸ hk.messageIds), hchannel, huser, rfl⟩
  rw [copy, husers]
  simp only [bind, Except.bind, hchannels, hmembers, hmessages]

/-! ## Stores of the first version -/

/-- A store of the first version is set up in the second: all rows stay, and no
message has a submitted time. -/
theorem migrate_of_first {t : Tables} (hv : t.versions = [1]) :
    t.migrate =
      { t with
        versions := [1, 2]
        messages := t.messages.map fun m => { m with createdAtText := none } } := by
  simp [migrate, hv]

/-- What is set up in the second version keeps what the keys promise. -/
theorem Keyed.migrate {t : Tables} (hk : t.Keyed) (hv : t.versions = [1]) : t.migrate.Keyed := by
  rw [migrate_of_first hv]
  refine ⟨hk.userIds, hk.emails, hk.channelIds, hk.memberships, ?_, hk.creators, hk.members, ?_⟩
  · rw [List.filterMap_map]
    exact hk.messageIds
  · intro m hm
    obtain ⟨m', hm', rfl⟩ := List.mem_map.1 hm
    exact hk.messages m' hm'

end ChatServer.Store.Tables

namespace ChatServer.Store

/-- **Migration keeps the store, and happens once.** A store that the first
version of the schema left is brought to the second when it is opened: all rows
stay where they are with their columns, and no message has a submitted time.
Whatever is done from then on, opening the store again changes nothing, and the
rows that were there in the beginning stay as they were brought over. No run of
operations and reopenings tells the store from one of the second version with
the same rows, and there is such a one: the rows can be put into a new store one
by one. -/
theorem migration_keeps_store {t : Tables} (hv : t.versions = [1]) (hk : t.Keyed) :
    (Database.open t).tables =
        { t with
          versions := [1, 2]
          messages := t.messages.map fun m => { m with createdAtText := none } } ∧
      (∀ steps,
        ((Database.open t).run steps).step .reopen = (Database.open t).run steps ∧
          ((Database.open t).run steps).tables.versions = [1, 2] ∧
          (Database.open t).tables.Grows ((Database.open t).run steps).tables) ∧
      (∀ other : Database, other.UpToDate → other.tables.SameRows (Database.open t).tables →
        ∀ steps, other.events steps = (Database.open t).events steps ∧
          (other.run steps).tables.SameRows ((Database.open t).run steps).tables) ∧
      (Database.open t).tables.copy .empty = .ok (Database.open t).tables := by
  have htables : (Database.open t).tables = _ := Tables.migrate_of_first hv
  have hup : (Database.open t).UpToDate := by
    refine ⟨?_, rfl⟩
    rw [Tables.Current, htables]
    exact Nat.le_refl 2
  refine ⟨htables, ?_, ?_, ?_⟩
  · intro steps
    obtain ⟨hversions, hlater⟩ := hup.run steps
    refine ⟨hlater.step_reopen, ?_, hup.run_grows steps⟩
    rw [hversions, htables]
  · intro other hother hrows steps
    obtain ⟨hevents, hrun⟩ := Database.Alike.events ⟨hother, hup, hrows⟩ steps
    exact ⟨hevents, hrun.rows⟩
  · have hcopy : (Database.open t).tables.copy .empty = _ := Tables.copy_empty (hk.migrate hv)
    rw [hcopy, htables]
    rfl

/-- A store of the first version with a message in it. -/
def sampleFirstVersion : Tables where
  versions := [1]
  users := [.ofUser ⟨sampleId 1, "a@test.com", sampleNoon⟩ "secret"]
  channels := [.ofChannel ⟨sampleId 2, .publicRoom, "lobby", sampleId 1, sampleNoon, none⟩]
  members := [⟨(sampleId 2).text, (sampleId 1).text, sampleNoon.stored⟩]
  messages := [⟨some (sampleId 3).text, (sampleId 2).text, (sampleId 9).text, (sampleId 1).text, "hi",
    sampleNoon.stored, none, none⟩]

/-- It is opened, and then answers as a store that never had a first version. -/
theorem migration_keeps_store_sample :
    (Database.open sampleFirstVersion).tables.copy .empty =
        .ok (Database.open sampleFirstVersion).tables ∧
      Database.events ⟨{ sampleFirstVersion with versions := [2] }, false⟩ sampleSteps =
        (Database.open sampleFirstVersion).events sampleSteps := by
  have hkeyed : sampleFirstVersion.Keyed := by
    constructor <;> simp [sampleFirstVersion, UserRow.ofUser, ChannelRow.ofChannel, Tables.hasUser,
      Tables.hasChannel]
  have hother : Database.UpToDate ⟨{ sampleFirstVersion with versions := [2] }, false⟩ :=
    ⟨Nat.le_refl 2, rfl⟩
  obtain ⟨-, -, halike, hcopy⟩ := migration_keeps_store (t := sampleFirstVersion) rfl hkeyed
  exact ⟨hcopy, (halike _ hother rfl sampleSteps).1⟩

end ChatServer.Store

