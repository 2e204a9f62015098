import ChatServer.Proofs.Events
import ChatServer.Proofs.Outcomes

/-!
# Requests that stop halfway

A handler asks the store several times, and the store may hold rows that it did
not write. A request that comes to an error has changed nothing, with one
exception: posting, joining and leaving write first and list the members of the
channel afterwards, and a member whose identifier does not read makes that
listing fail. The client is told of a failure of the store then, and what was
written stays.

Nothing is assumed of the tables here, not even their keys.

* `handle_ending`: the three ways in which a command ends, in any store.
* `refused_changed_iff`: a request that comes to an error changes the tables
  exactly when it stops halfway.
-/
namespace ChatServer.Store

/-! ## Failing lists -/

/-- A step that fails on a list fails on an element. -/
theorem mapM_eq_error {ε α β : Type} {f : α → Except ε β} {xs : List α} {e : ε}
    (h : xs.mapM f = .error e) : ∃ x ∈ xs, f x = .error e := by
  induction xs with
  | nil => cases h
  | cons x xs ih =>
    rw [List.mapM_cons] at h
    cases hx : f x with
    | error e' =>
      rw [hx] at h
      cases h
      exact ⟨x, List.mem_cons_self, hx⟩
    | ok y =>
      cases hxs : xs.mapM f with
      | error e' =>
        rw [hx, hxs] at h
        cases h
        obtain ⟨x', hin, he⟩ := ih hxs
        exact ⟨x', List.mem_cons_of_mem x hin, he⟩
      | ok ys =>
        rw [hx, hxs] at h
        cases h

/-- A listing of members fails on a member whose identifier does not read. -/
theorem listMembers_eq_error {t : Tables} {channelId : Uuid} {e : Error}
    (h : t.listMembers channelId = .error e) :
    ∃ m ∈ t.members, m.channelId = channelId.text ∧ Uuid.parse? m.userId = none := by
  obtain ⟨m, hin, he⟩ := mapM_eq_error h
  obtain ⟨hmember, hchannel⟩ := List.mem_filter.1 (List.mem_mergeSort.1 hin)
  refine ⟨m, hmember, by simpa using hchannel, ?_⟩
  cases hid : Uuid.parse? m.userId with
  | none => rfl
  | some id => simp [readId, hid] at he

/-! ## Memberships that end -/

/-- Ending a membership that is not there changes nothing. -/
theorem eraseMember_of_not_member {t : Tables} {channelId userId : String}
    (h : t.hasMember channelId userId = false) : t.eraseMember channelId userId = t := by
  rw [Tables.hasMember, List.any_eq_false] at h
  have hall : t.members.filter (fun m => !(m.channelId == channelId && m.userId == userId)) =
    t.members :=
    List.filter_eq_self.2 fun m hm => by rw [Bool.eq_false_iff.2 (h m hm), Bool.not_false]
  rw [Tables.eraseMember, hall]

end ChatServer.Store

namespace ChatServer.Action

open Delivery Protocol Store Time

/-! ## Writes before a listing -/

/-- What a command of session `s` for a channel writes before it lists the
members. -/
inductive Writes (s : Session) (d : Draw) (t : Tables) (channelId : Uuid) : Command → Tables → Prop
  | posted {target : String} (hid : Uuid.parse? target = some channelId) {m : MessageRequest}
    {createdAt : Timestamp} (htime : messageTime d.now m.createdAt = .ok createdAt) :
    Writes s d t channelId (.createMessage target m)
      { t with
        messages := t.messages ++
          [.ofMessage ⟨d.id, channelId, s.id, s.userId, m.text, createdAt, none⟩] }
  | joined {target : String} (hid : Uuid.parse? target = some channelId) :
    Writes s d t channelId (.joinPublicRoom target)
      { t with members := t.members ++ [⟨channelId.text, s.userId.text, d.now.stored⟩] }
  | left {target : String} (hid : Uuid.parse? target = some channelId)
    (hmember : t.hasMember channelId.text s.userId.text = true) :
    Writes s d t channelId (.leavePublicRoom target) (t.eraseMember channelId.text s.userId.text)

theorem Writes.ne {s : Session} {d : Draw} {t u : Tables} {channelId : Uuid} {command : Command}
    (h : Writes s d t channelId command u) : u ≠ t := by
  intro he
  cases h with
  | posted => simpa using congrArg (fun t => t.messages.length) he
  | joined => simpa using congrArg (fun t => t.members.length) he
  | left _ hmember =>
    have hgone := t.hasMember_eraseMember channelId.text s.userId.text channelId.text s.userId.text
    simp [he, hmember] at hgone

/-! ## Commands -/

/-- How a command ends: in a reply; in a refusal, with the store as it was; or
in a failure of the store when the members are listed, behind a write that
stays. -/
inductive Ending (s : Session) (d : Draw) (db : Database) (command : Command) :
    Outcome × Database → Prop
  | answered {reply : Reply} (htag : reply.envelope.tag ≠ .error) (after : Database) :
    Ending s d db command (.ok reply, after)
  | refused (r : Refusal) : Ending s d db command (.error r, db)
  | halfway {channelId : Uuid} {after : Database}
    (hwrites : Writes s d db.tables channelId command after.tables)
    (hunread : ∃ m ∈ after.tables.members, m.channelId = channelId.text ∧
      Uuid.parse? m.userId = none)
    (e : Store.Error) : Ending s d db command (.error (.store e), after)

section
variable {s : Session} {d : Draw} {db : Database} {command : Command}

theorem run_asking_ok {op : Operation} {next : op.Answer → Plan Outcome} {db : Database}
    {answer : op.Answer} (h : (db.perform op d).1 = .ok answer) :
    (asking op next).run d db = (next answer).run d (db.perform op d).2 := by
  rw [asking, Plan.run, h]

theorem run_asking_error {op : Operation} {next : op.Answer → Plan Outcome} {db : Database}
    {e : Store.Error} (h : (db.perform op d).1 = .error e) :
    (asking op next).run d db = (.error (.store e), db) := by
  rw [asking, Plan.run, h, Database.perform_error h]
  rfl

theorem ending_checking {α : Type} {check : Except Refusal α} {next : α → Plan Outcome}
    (h : ∀ x, check = .ok x → Ending s d db command ((next x).run d db)) :
    Ending s d db command ((checking check next).run d db) := by
  cases hx : check with
  | error r => exact .refused r
  | ok x => exact h x hx

/-- The first thing that a command asks may fail without a trace. -/
theorem ending_asking {op : Operation} {next : op.Answer → Plan Outcome}
    (h : db.poisoned = false → ∀ answer t, op.apply d db.tables = .ok (answer, t) →
      Ending s d db command ((next answer).run d { db with tables := t })) :
    Ending s d db command ((asking op next).run d db) := by
  cases ha : (db.perform op d).1 with
  | error e =>
    rw [run_asking_error ha]
    exact .refused (.store e)
  | ok answer =>
    obtain ⟨hp, t, hop, ht⟩ := Database.perform_eq_ok ha
    rw [run_asking_ok ha, ht]
    exact h hp answer t hop

theorem ending_existing {channelId : Uuid} {next : Plan Outcome}
    (h : Ending s d db command (next.run d db)) :
    Ending s d db command ((existing channelId next).run d db) := by
  refine ending_asking fun _ found t hop => ?_
  obtain ⟨-, rfl⟩ := Operation.asking_eq_ok.1 hop
  cases found with
  | none => exact .refused _
  | some c => exact h

/-- A listing of members comes last, behind a write or with the tables as they
were. -/
theorem ending_listMembers (hp : db.poisoned = false) {t : Tables} {channelId : Uuid}
    (ht : t = db.tables ∨ Writes s d db.tables channelId command t) {tag : ActionTag}
    (htag : tag ≠ .error) (content : Content) :
    Ending s d db command ((asking (.listMembers channelId) fun members =>
      .done (.ok (.toChannel s members tag channelId content))).run d { db with tables := t }) := by
  have hperform : ({ db with tables := t } : Database).perform (.listMembers channelId) d =
      (t.listMembers channelId, { db with tables := t }) := by
    rw [Database.perform_asking]
    · exact hp
    · rfl
  cases hx : t.listMembers channelId with
  | ok members =>
    rw [run_asking_ok (by rw [hperform, hx])]
    exact .answered htag _
  | error e =>
    rw [run_asking_error (by rw [hperform, hx])]
    rcases ht with rfl | hwrites
    · exact .refused (.store e)
    · exact .halfway hwrites (listMembers_eq_error hx) e

/-- A target names the channel whose identifier it is read as. -/
theorem targetChannel_eq_ok_iff {target : String} {id : Uuid} :
    targetChannel target = .ok id ↔ Uuid.parse? target = some id := by
  unfold targetChannel
  cases Uuid.parse? target <;> simp

theorem ending_target {target : String} {next : Uuid → Plan Outcome}
    (h : ∀ channelId, Uuid.parse? target = some channelId →
      Ending s d db command ((next channelId).run d db)) :
    Ending s d db command ((checking (targetChannel target) next).run d db) :=
  ending_checking fun channelId hid => h channelId (targetChannel_eq_ok_iff.1 hid)

/-- Every command ends in one of three ways, in any store. -/
theorem handle_ending (s : Session) (d : Draw) (db : Database) (command : Command) :
    Ending s d db command ((handle s d.now command).run d db) := by
  cases command with
  | unknown tag => exact .refused _
  | createPublicRoom room =>
    refine ending_checking fun name _ => ending_asking fun _ channel t _ => ?_
    exact .answered (by simp [Reply.toChannel]) _
  | createMessage target m =>
    refine ending_target fun channelId hid => ending_checking fun text htext => ?_
    refine ending_checking fun createdAt htime => ending_asking fun hp message t hop => ?_
    obtain rfl : m.text = text := by
      unfold writtenText at htext
      split at htext
      · cases htext
      · exact Except.ok.inj htext
    rcases Tables.appendMessage_eq_ok hop with ⟨-, rfl, rfl⟩ | ⟨-, rfl, hinsert⟩
    · exact .refused _
    · obtain ⟨-, -, -, rfl⟩ := Tables.insertMessage_eq_ok.1 hinsert
      exact ending_listMembers hp (.inr (.posted hid htime)) (by decide) _
  | listMessages target =>
    refine ending_target fun channelId _ => ending_existing (ending_asking fun _ messages t _ => ?_)
    exact .answered (by simp [Reply.toSession]) _
  | joinPublicRoom target =>
    refine ending_target fun channelId hid =>
      ending_existing (ending_asking fun hp added t hop => ?_)
    refine ending_listMembers hp ?_ (by decide) _
    rcases Tables.addMember_eq_ok hop with ⟨-, -, rfl⟩ | ⟨-, -, hinsert⟩
    · exact .inl rfl
    · obtain ⟨-, -, -, rfl⟩ := Tables.insertMember_eq_ok.1 hinsert
      exact .inr (.joined hid)
  | leavePublicRoom target =>
    refine ending_target fun channelId hid =>
      ending_existing (ending_asking fun hp removed t hop => ?_)
    refine ending_listMembers hp ?_ (by decide) _
    cases hop
    cases hmember : db.tables.hasMember channelId.text s.userId.text with
    | false => exact .inl (eraseMember_of_not_member hmember)
    | true => exact .inr (.left hid hmember)

end

/-! ## Frames -/

/-- A frame stopped halfway: it asks to post to a channel, to join or to leave
one, what it asks for is written, and a member of the channel does not read. The
client is told of a failure of the store. -/
def StoppedHalfway (s : Session) (d : Draw) (text : String) (before : Tables) (reply : Reply)
    (after : Tables) : Prop :=
  ∃ e command channelId, Inbound.parse text = .ok e ∧ e.command = .ok command ∧
    Writes s d before channelId command after ∧
    (∃ m ∈ after.members, m.channelId = channelId.text ∧ Uuid.parse? m.userId = none) ∧
    reply.errorCode? = some .serverError

/-- **What an error leaves behind.** In every store, whatever its rows hold, a
frame that is answered with an error leaves the tables as they were, unless it
stopped halfway; then one row has come or gone. -/
theorem refused_changed_iff {s : Session} {d : Draw} {text : String} {db : Database}
    (herror : ((respond s d.now text).run d db).1.envelope.tag = .error) :
    ((respond s d.now text).run d db).2.tables ≠ db.tables ↔
      StoppedHalfway s d text db.tables ((respond s d.now text).run d db).1
        ((respond s d.now text).run d db).2.tables := by
  constructor
  · intro hchanged
    unfold respond at herror hchanged ⊢
    cases hparse : Inbound.parse text with
    | error f => simp [hparse, Plan.run] at hchanged
    | ok e =>
      rw [hparse] at herror hchanged
      dsimp only at herror hchanged ⊢
      cases hcommand : e.command with
      | error f => simp [hcommand, Plan.run] at hchanged
      | ok command =>
        rw [hcommand] at herror hchanged
        dsimp only at herror hchanged ⊢
        rw [Plan.run_map] at herror hchanged ⊢
        have hending := handle_ending s d db command
        generalize (handle s d.now command).run d db = result at *
        cases hending with
        | answered htag after => exact absurd herror htag
        | refused r => exact absurd rfl hchanged
        | halfway hwrites hunread e' =>
          exact ⟨e, command, _, hparse, hcommand, hwrites, hunread, rfl⟩
  · rintro ⟨e, command, channelId, -, -, hwrites, -, -⟩
    exact hwrites.ne

/-- A store whose keys hold, with a member who does not read. -/
def sampleDamaged : Database where
  tables :=
    { versions := []
      users :=
        [⟨some (sampleId 1).text, "a@test.com", "hash", sampleNoon.stored⟩,
          ⟨some "nobody", "b@test.com", "hash", sampleNoon.stored⟩]
      channels :=
        [⟨some (sampleId 2).text, "public_room", "room", (sampleId 1).text, sampleNoon.stored, none⟩]
      members := [⟨(sampleId 2).text, "nobody", sampleNoon.stored⟩]
      messages := [] }
  poisoned := false

/-- An error does not always leave the tables as they were: the message of a
refused request stays. -/
theorem refused_leaves_message :
    let after := (respond sampleSession sampleNoon sampleFarewell).run (sampleDraw 3) sampleDamaged
    sampleDamaged.tables.Keyed ∧ after.1.envelope.tag = .error ∧
      after.2.tables.messages ≠ sampleDamaged.tables.messages := by
  refine ⟨?_, by decide +kernel, by decide +kernel⟩
  constructor <;> decide +kernel

theorem refused_changed_iff_sample :
    ((respond sampleSession sampleNoon sampleFarewell).run (sampleDraw 3)
        sampleDamaged).1.envelope.tag = .error ∧
      StoppedHalfway sampleSession (sampleDraw 3) sampleFarewell sampleDamaged.tables
        ((respond sampleSession sampleNoon sampleFarewell).run (sampleDraw 3) sampleDamaged).1
        ((respond sampleSession sampleNoon sampleFarewell).run (sampleDraw 3)
          sampleDamaged).2.tables := by
  have hnow : sampleNoon = (sampleDraw 3).now := rfl
  rw [hnow]
  have herror : ((respond sampleSession (sampleDraw 3).now sampleFarewell).run (sampleDraw 3)
      sampleDamaged).1.envelope.tag = .error := by decide +kernel
  exact ⟨herror, (refused_changed_iff herror).1 (by decide +kernel)⟩

end ChatServer.Action

