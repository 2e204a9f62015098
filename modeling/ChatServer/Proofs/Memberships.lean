import ChatServer.Proofs.Answers
import ChatServer.Proofs.Events
import ChatServer.Proofs.Users
import Mathlib.Data.Prod.Lex
import Mathlib.Data.String.Basic

/-!
# Members by history

Who belongs to a channel, and since when, is what the last call that bore on the
membership made of it: the creation of the channel by the user, a joining or a
leaving. A joining of somebody who is a member already bears on nothing: the
time that is recorded stays, and with it the place in the list of members. Calls
about one channel or one user leave the others alone, and so do calls that fail.

* `Holds.settled_run`: what is found after a run is what the last event that
  bore on it made of it.
* `Ledger.Sound.nodup_membersOf`, `Ledger.Sound.ordered_membersOf`: the list of
  members.
* `Database.joinedAt?_addMember`: what joining records.
* `Ledger.membersOf_enter`: an event that is about other channels leaves the
  list as it is.
* `members_by_history`: all of it, in every state that a run reaches.
-/
namespace ChatServer.Store

/-! ## What a history says -/

namespace Performed

/-- The membership that an event is about, whatever came of it. A creation that
fails is about none. -/
def about? : Performed → Option (Uuid × Uuid)
  | ⟨.createChannel _ _ creatorId, _, .ok channel⟩ => some (channel.id, creatorId)
  | ⟨.addMember channelId userId, _, _⟩ => some (channelId, userId)
  | ⟨.removeMember channelId userId, _, _⟩ => some (channelId, userId)
  | _ => none

theorem records?_of_not_about {channelId userId : Uuid} {e : Performed}
    (h : e.about? ≠ some (channelId, userId)) : e.records? channelId userId = none := by
  unfold about? at h
  unfold records?
  split <;> simp_all

end Performed

/-- Whether a user belongs to a channel, as the last event that bore on it
says. -/
def memberBy (history : List Performed) (channelId userId : Uuid) : Bool :=
  (history.filterMap (Performed.settles? channelId userId)).getLast?.getD false

/-- The time since which a user belongs to a channel, as the last event that was
recorded says. -/
def joinedBy (history : List Performed) (channelId userId : Uuid) : Option String :=
  (history.filterMap (Performed.records? channelId userId)).getLast?.getD none

end ChatServer.Store

namespace ChatServer.Database

open Store

/-- What is found after a run is what the last of its events that bore on it
made of it. -/
theorem Holds.settled_run {α : Type} (view : Tables → α) (settle : Performed → Option α)
    (hperform : ∀ (db : Database) (op : Operation) (d : Draw), view (db.perform op d).2.tables =
      (settle ⟨op, d, (db.perform op d).1⟩).getD (view db.tables))
    {db : Database} {k : Ledger} (h : db.Holds k) (steps : List Step) :
    view (db.run steps).tables =
    ((db.events steps).filterMap settle).getLast?.getD (view db.tables) := by
  induction steps generalizing db k with
  | nil => rfl
  | cons s steps ih =>
    have hrest := ih (h.step s)
    cases s with
    | reopen =>
      rw [h.reopen.tables, ← h.tables] at hrest
      exact hrest
    | perform op d =>
      refine hrest.trans ?_
      rw [show (db.step (.perform op d)).tables = (db.perform op d).2.tables from rfl, hperform]
      simp only [events, stepEvents, List.singleton_append, List.filterMap_cons]
      cases settle ⟨op, d, (db.perform op d).1⟩ with
      | none => rfl
      | some x => rw [List.getLast?_cons, Option.getD_some, Option.getD_some]

theorem hasMember_run (steps : List Step) (channelId userId : Uuid) :
    (empty.run steps).tables.hasMember channelId.text userId.text =
      memberBy (empty.events steps) channelId userId :=
  holds_empty.settled_run (·.hasMember channelId.text userId.text) (Performed.settles? channelId userId)
    (fun db op d => db.hasMember_perform op d channelId userId) steps

theorem joinedAt?_run (steps : List Step) (channelId userId : Uuid) :
    (empty.run steps).tables.joinedAt? channelId.text userId.text =
      joinedBy (empty.events steps) channelId userId :=
  holds_empty.settled_run (·.joinedAt? channelId.text userId.text) (Performed.records? channelId userId)
    (fun db op d => db.joinedAt?_perform op d channelId userId) steps

end ChatServer.Database

namespace ChatServer.Store

/-! ## The list of members -/

theorem joinedBefore_iff (a b : MemberRow) : Tables.joinedBefore a b = true ↔
    toLex (a.joinedAt, a.userId) ≤ toLex (b.joinedAt, b.userId) := by
  rw [Prod.Lex.toLex_le_toLex]
  simp [Tables.joinedBefore]

theorem joinedBefore_trans (a b c : MemberRow) (hab : Tables.joinedBefore a b = true)
    (hbc : Tables.joinedBefore b c = true) : Tables.joinedBefore a c = true := by
  rw [joinedBefore_iff] at hab hbc ⊢
  exact hab.trans hbc

theorem joinedBefore_total (a b : MemberRow) :
    (Tables.joinedBefore a b || Tables.joinedBefore b a) = true := by
  rw [Bool.or_eq_true, joinedBefore_iff, joinedBefore_iff]
  exact le_total _ _

namespace Ledger

variable {k : Ledger}

/-- The memberships of a ledger are told apart by channel and user. -/
theorem Sound.memberships_nodup (hk : k.Sound) :
    (k.members.map fun m => (m.channelId.text, m.userId.text)).Nodup := by
  have h := hk.keyed.memberships
  rwa [written, List.map_map] at h

theorem Sound.joinedAt?_written (hk : k.Sound) {m : Membership} (hm : m ∈ k.members) :
    k.written.joinedAt? m.channelId.text m.userId.text = some m.joinedAt.stored := by
  have hrow : k.written.members.find? (fun r =>
    r.channelId == m.channelId.text && r.userId == m.userId.text) =
      some (.ofMembership m) := by
    refine find?_of_unique (List.mem_map_of_mem hm) (by simp [MemberRow.ofMembership]) fun r hr hsame => ?_
    obtain ⟨m', hm', rfl⟩ := List.mem_map.1 hr
    obtain ⟨hchannel, huser⟩ := Bool.and_eq_true_iff.1 hsame
    rw [List.inj_on_of_nodup_map hk.memberships_nodup hm' hm
      (Prod.ext (beq_iff_eq.1 hchannel) (beq_iff_eq.1 huser))]
  rw [Tables.joinedAt?, hrow, Option.map_some, MemberRow.ofMembership]

/-- Nobody is listed twice. -/
theorem Sound.nodup_membersOf (hk : k.Sound) (channelId : Uuid) :
    (k.membersOf channelId).Nodup := by
  have hperm := List.mergeSort_perm (k.members.filter (·.channelId == channelId)) fun a b =>
    Tables.joinedBefore (.ofMembership a) (.ofMembership b)
  rw [membersOf, (hperm.map Membership.userId).nodup_iff]
  refine (hk.memberships_nodup.of_map.filter _).map_on fun a ha b hb huser => ?_
  obtain ⟨ha, hac⟩ := List.mem_filter.1 ha
  obtain ⟨hb, hbc⟩ := List.mem_filter.1 hb
  rw [beq_iff_eq] at hac hbc
  exact List.inj_on_of_nodup_map hk.memberships_nodup ha hb (by rw [hac, hbc, huser])

/-- Members are listed by the text of the time since which they belong to the
channel, and those of the same time by their identifiers. -/
theorem Sound.ordered_membersOf (hk : k.Sound) (channelId : Uuid) :
    (k.membersOf channelId).Pairwise fun a b => ∃ since since',
      k.written.joinedAt? channelId.text a.text = some since ∧
        k.written.joinedAt? channelId.text b.text = some since' ∧
          (since < since' ∨ since = since' ∧ a.text ≤ b.text) := by
  have hsorted := List.pairwise_mergeSort
    (fun a b c => joinedBefore_trans (.ofMembership a) (.ofMembership b) (.ofMembership c))
    (fun a b => joinedBefore_total (.ofMembership a) (.ofMembership b))
    (k.members.filter (·.channelId == channelId))
  rw [membersOf, List.pairwise_map]
  refine hsorted.imp_of_mem fun {a b} ha hb hab =>
    ⟨a.joinedAt.stored, b.joinedAt.stored, ?_, ?_, ?_⟩
  · obtain ⟨ha, hac⟩ := List.mem_filter.1 (List.mem_mergeSort.1 ha)
    rw [← beq_iff_eq.1 hac, hk.joinedAt?_written ha]
  · obtain ⟨hb, hbc⟩ := List.mem_filter.1 (List.mem_mergeSort.1 hb)
    rw [← beq_iff_eq.1 hbc, hk.joinedAt?_written hb]
  · exact Prod.Lex.toLex_le_toLex.1 ((joinedBefore_iff _ _).1 hab)

/-- An event that is about other channels leaves the list of members as it
is. -/
theorem membersOf_enter {e : Performed} {channelId : Uuid}
    (h : ∀ userId, e.about? ≠ some (channelId, userId)) :
    (k.enter e).membersOf channelId = k.membersOf channelId := by
  have hrows : (k.enter e).members.filter (·.channelId == channelId) =
      k.members.filter (·.channelId == channelId) := by
    unfold enter
    split
    · rfl
    · next creatorId d channel =>
      have hother : channel.id ≠ channelId := fun he => h creatorId (by rw [Performed.about?, he])
      simp [hother]
    · next channel user d =>
      have hother : channel ≠ channelId := fun he => h user (by rw [Performed.about?, he])
      simp [hother]
    · next channel user d answer =>
      have hother : channel ≠ channelId := fun he => h user (by rw [Performed.about?, he])
      rw [List.filter_filter]
      refine List.filter_congr fun m _ => ?_
      rw [Bool.and_eq_left_iff_imp]
      intro hsought
      have hkept : m.channelId ≠ channel := fun he => hother (he.symm.trans (beq_iff_eq.1 hsought))
      simp [hkept]
    · rfl
    · rfl
  rw [membersOf, membersOf, hrows]

end Ledger
end ChatServer.Store

namespace ChatServer.Database

open Store

/-- Who joins is a member from now on. -/
theorem joinedAt?_addMember (db : Database) (h : db.poisoned = false) (channelId userId : Uuid)
    (d : Draw) (hnew : db.tables.hasMember channelId.text userId.text = false)
    (hthere : (db.tables.hasChannel channelId.text && db.tables.hasUser userId.text) = true) :
    (db.perform (.addMember channelId userId) d).1 = .ok true ∧
      (db.perform (.addMember channelId userId) d).2.tables.joinedAt? channelId.text userId.text =
        some d.now.stored := by
  have hjoined : (db.perform (.addMember channelId userId) d).1 = .ok true := by
    rw [db.perform_addMember_new h channelId userId d hnew, if_pos hthere]
  refine ⟨hjoined, ?_⟩
  rw [joinedAt?_perform, hjoined, Performed.records?, if_pos ⟨rfl, rfl⟩, Option.getD_some]

end ChatServer.Database

namespace ChatServer.Store

/-! ## Every state of a run -/

/-- A store remembers the membership of a user in a channel as a history tells
it. -/
structure Remembers (db : Database) (history : List Performed) (channelId userId : Uuid) :
    Prop where
  record : db.tables.joinedAt? channelId.text userId.text = joinedBy history channelId userId
  /-- There is a time for those who are members, and for no others. -/
  isSome : (joinedBy history channelId userId).isSome = memberBy history channelId userId
  /-- Who is a member already joins without a trace. -/
  again : memberBy history channelId userId = true → ∀ d,
    db.perform (.addMember channelId userId) d = (.ok false, db)
  /-- Who is not a member joins from now on, if the channel and the user are
  there. -/
  join : memberBy history channelId userId = false → ∀ d,
    let joined := db.perform (.addMember channelId userId) d
    if db.tables.hasChannel channelId.text && db.tables.hasUser userId.text then
      joined.1 = .ok true ∧ joined.2.tables.joinedAt? channelId.text userId.text = some d.now.stored
    else joined = (.error .foreignKey, db)
  /-- Who leaves learns whether there was a membership, and there is none
  afterwards. -/
  leave : ∀ d,
    let left := db.perform (.removeMember channelId userId) d
    left.1 = .ok (memberBy history channelId userId) ∧
      left.2.tables.joinedAt? channelId.text userId.text = none
  /-- Who leaves and joins again is a member from then on. -/
  rejoin : memberBy history channelId userId = true → ∀ d d',
    let joined := (db.perform (.removeMember channelId userId) d).2.perform (.addMember channelId userId) d'
    joined.1 = .ok true ∧ joined.2.tables.joinedAt? channelId.text userId.text = some d'.now.stored
  /-- Nothing that is about another membership has a part in this one. -/
  apart : ∀ op d, Performed.about? ⟨op, d, (db.perform op d).1⟩ ≠ some (channelId, userId) →
    (db.perform op d).2.tables.joinedAt? channelId.text userId.text =
      db.tables.joinedAt? channelId.text userId.text

/-- A list of members is what a history makes it. -/
structure ListedBy (history : List Performed) (channelId : Uuid) (listed : List Uuid) : Prop where
  nodup : listed.Nodup
  mem_iff : ∀ userId, userId ∈ listed ↔ memberBy history channelId userId = true
  /-- The order is that of the texts of the times; identifiers decide among
  those of one time. -/
  ordered : listed.Pairwise fun a b => ∃ since since',
    joinedBy history channelId a = some since ∧ joinedBy history channelId b = some since' ∧
      (since < since' ∨ since = since' ∧ a.text ≤ b.text)

/-- A store lists the members of a channel as a history tells them, and the list
stays as it is when something else comes that is about no membership in the
channel. -/
structure Lists (db : Database) (history : List Performed) (channelId : Uuid) : Prop where
  listed : ∀ d, ∃ listed, db.perform (.listMembers channelId) d = (.ok listed, db) ∧
    ListedBy history channelId listed
  apart : ∀ op d, (∀ userId, Performed.about? ⟨op, d, (db.perform op d).1⟩ ≠ some (channelId, userId)) →
    ∀ d', (db.perform op d).2.answer (.listMembers channelId) d' =
      db.answer (.listMembers channelId) d'

theorem remembers_run (steps : List Step) (channelId userId : Uuid) :
    Remembers (Database.empty.run steps) (Database.empty.events steps) channelId userId := by
  have h := holds_ledgerOf steps
  have hmember := Database.hasMember_run steps channelId userId
  have hrecord := Database.joinedAt?_run steps channelId userId
  generalize Database.empty.run steps = db at *
  generalize Database.empty.events steps = history at *
  constructor
  · exact hrecord
  · rw [← hrecord, Tables.isSome_joinedAt?, hmember]
  · intro hin d
    exact db.perform_addMember_again h.healthy channelId userId d (hmember.trans hin)
  · intro hout d
    dsimp only
    split
    · next hthere =>
      exact db.joinedAt?_addMember h.healthy channelId userId d (hmember.trans hout) hthere
    · next hthere =>
      rw [db.perform_addMember_new h.healthy channelId userId d (hmember.trans hout), if_neg hthere]
  · intro d
    rw [← hmember, db.perform_removeMember h.healthy]
    refine ⟨rfl, ?_⟩
    rw [Tables.joinedAt?_eraseMember, if_pos ⟨rfl, rfl⟩, Option.getD_some]
  · intro hin d d'
    obtain ⟨hchannel, huser⟩ := (h.tables ▸ h.sound.keyed).named_of_hasMember (hmember.trans hin)
    rw [db.perform_removeMember h.healthy]
    refine Database.joinedAt?_addMember
      { db with tables := db.tables.eraseMember channelId.text userId.text }
      h.healthy channelId userId d' ?_ ?_
    · rw [Tables.hasMember_eraseMember]
      simp
    · exact Bool.and_eq_true_iff.2 ⟨hchannel, huser⟩
  · intro op d habout
    rw [Database.joinedAt?_perform, Performed.records?_of_not_about habout, Option.getD_none]

theorem lists_run (steps : List Step) (channelId : Uuid) :
    Lists (Database.empty.run steps) (Database.empty.events steps) channelId := by
  have h := holds_ledgerOf steps
  constructor
  · intro d
    refine ⟨_, perform_listMembers h channelId d, h.sound.nodup_membersOf channelId, ?_, ?_⟩
    · intro userId
      rw [Ledger.mem_membersOf_iff, ← h.tables, Database.hasMember_run]
    · have hordered := h.sound.ordered_membersOf channelId
      simpa only [← h.tables, Database.joinedAt?_run] using hordered
  · intro op d habout d'
    rw [Database.answer, Database.answer, perform_listMembers (h.perform op d),
      perform_listMembers h,
      Ledger.membersOf_enter habout]

/-- **Members by history.** After any operations, successful or not, and
reopenings of the store, the last event that bore on a membership says whether
it lasts and since when, and later calls go by that. -/
theorem members_by_history (steps : List Step) (channelId : Uuid) :
    Lists (Database.empty.run steps) (Database.empty.events steps) channelId ∧
      ∀ userId, Remembers (Database.empty.run steps)
      (Database.empty.events steps) channelId userId :=
  ⟨lists_run steps channelId, remembers_run steps channelId⟩

end ChatServer.Store

