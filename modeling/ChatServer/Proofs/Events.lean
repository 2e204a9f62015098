import ChatServer.Proofs.Members

/-!
# What an event leaves behind

Each operation that was carried out says by itself what it did: whom it
registered, which channel it created, which message it appended, and what it
made of a membership. On a store that holds a ledger it did just that.

* `Ledger.users_foldl`, `Ledger.created_foldl`, `Ledger.messages_foldl`: what
  events add to the users, the channels and the messages.
* `Database.hasMember_perform`, `Database.joinedAt?_perform`: an event settles
  the memberships that it bears on, and the times since which they last, and no
  others.
-/
namespace ChatServer.Store

namespace Performed

/-- The user whom an event registered, with the hashed password. -/
def registered? : Performed → Option (User × String)
  | ⟨.createUser _ password, _, .ok (some user)⟩ => some (user, password)
  | _ => none

def created? : Performed → Option Channel
  | ⟨.createChannel _ _ _, _, .ok channel⟩ => some channel
  | _ => none

def appended? : Performed → Option Message
  | ⟨.appendMessage _, _, .ok (some message)⟩ => some message
  | _ => none

/-- What an event makes of the membership of a user in a channel; none when it
does not bear on it. Who is made a member again stays one. -/
def settles? (channelId userId : Uuid) : Performed → Option Bool
  | ⟨.createChannel _ _ creatorId, _, .ok channel⟩ =>
    if channel.id = channelId ∧ creatorId = userId then some true else none
  | ⟨.addMember channel user, _, .ok _⟩ =>
    if channel = channelId ∧ user = userId then some true else none
  | ⟨.removeMember channel user, _, .ok _⟩ =>
    if channel = channelId ∧ user = userId then some false else none
  | _ => none

/-- What an event makes of the record of a membership, the time since which the
user belongs to the channel; none when it leaves the record as it is. Who is
made a member again keeps the record. -/
def records? (channelId userId : Uuid) : Performed → Option (Option String)
  | ⟨.createChannel _ _ creatorId, d, .ok channel⟩ =>
    if channel.id = channelId ∧ creatorId = userId then some (some d.now.stored) else none
  | ⟨.addMember channel user, d, .ok true⟩ =>
    if channel = channelId ∧ user = userId then some (some d.now.stored) else none
  | ⟨.removeMember channel user, _, .ok _⟩ =>
    if channel = channelId ∧ user = userId then some none else none
  | _ => none

/-- An event that creates no channel and appends no message. -/
def Quiet (e : Performed) : Prop := e.created? = none ∧ e.appended? = none

theorem quiet_error (op : Operation) (d : Draw) (e : Error) : Quiet ⟨op, d, .error e⟩ := by
  cases op <;> exact ⟨rfl, rfl⟩

theorem created?_eq_some {e : Performed} {channel : Channel} (h : e.created? = some channel) :
    ∃ kind name creatorId d, e = ⟨.createChannel kind name creatorId, d, .ok channel⟩ := by
  unfold created? at h
  split at h
  · next kind name creatorId d channel' =>
    obtain rfl := Option.some.inj h
    exact ⟨kind, name, creatorId, d, rfl⟩
  · cases h

theorem appended?_eq_some {e : Performed} {message : Message} (h : e.appended? = some message) :
    ∃ new d, e = ⟨.appendMessage new, d, .ok (some message)⟩ := by
  unfold appended? at h
  split at h
  · next new d message' =>
    obtain rfl := Option.some.inj h
    exact ⟨new, d, rfl⟩
  · cases h

theorem settles?_error (channelId userId : Uuid) (op : Operation) (d : Draw) (e : Error) :
    settles? channelId userId ⟨op, d, .error e⟩ = none := by
  cases op <;> rfl

theorem records?_error (channelId userId : Uuid) (op : Operation) (d : Draw) (e : Error) :
    records? channelId userId ⟨op, d, .error e⟩ = none := by
  cases op <;> rfl

end Performed

/-! ## Channels and messages -/

namespace Ledger

/-- What each event adds to a part of the ledger is there after all of them, in
their order. -/
theorem collected_foldl {α : Type} {part : Ledger → List α} {added : Performed → Option α}
    (h : ∀ k e, part (enter k e) = part k ++ (added e).toList) (k : Ledger)
    (events : List Performed) :
    part (events.foldl enter k) = part k ++ events.filterMap added := by
  induction events generalizing k with
  | nil => simp
  | cons e events ih =>
    rw [List.foldl_cons, ih, h, List.append_assoc]
    cases he : added e <;> simp [he]

theorem messages_foldl (k : Ledger) (events : List Performed) :
    (events.foldl enter k).messages = k.messages ++ events.filterMap Performed.appended? := by
  refine collected_foldl (fun k e => ?_) k events
  unfold enter Performed.appended?
  split <;> simp

theorem created_foldl (k : Ledger) (events : List Performed) :
    (events.foldl enter k).channels = k.channels ++ events.filterMap Performed.created? := by
  refine collected_foldl (fun k e => ?_) k events
  unfold enter Performed.created?
  split <;> simp

theorem users_foldl (k : Ledger) (events : List Performed) :
    (events.foldl enter k).users = k.users ++ events.filterMap Performed.registered? := by
  refine collected_foldl (fun k e => ?_) k events
  unfold enter Performed.registered?
  split <;> simp

end Ledger

/-! ## Memberships -/

namespace Tables

variable {t u : Tables}

/-- The recorded time since which a user belongs to a channel. -/
def joinedAt? (t : Tables) (channelId userId : String) : Option String :=
  (t.members.find? fun m => m.channelId == channelId && m.userId == userId).map MemberRow.joinedAt

theorem isSome_joinedAt? (t : Tables) (channelId userId : String) :
    (t.joinedAt? channelId userId).isSome = t.hasMember channelId userId := by
  rw [joinedAt?, hasMember, Option.isSome_map, List.isSome_find?]

theorem joinedAt?_append {channel user : Uuid} {joinedAt : String}
    (hnew : t.hasMember channel.text user.text = false) (channelId userId : Uuid) :
    ({ t with members := t.members ++ [⟨channel.text, user.text, joinedAt⟩] } : Tables).joinedAt?
        channelId.text userId.text =
      (if channel = channelId ∧ user = userId then some (some joinedAt) else none).getD
        (t.joinedAt? channelId.text userId.text) := by
  by_cases hpair : channel = channelId ∧ user = userId
  · obtain ⟨rfl, rfl⟩ := hpair
    rw [← isSome_joinedAt?, Option.isSome_eq_false_iff, Option.isNone_iff_eq_none, joinedAt?,
      Option.map_eq_none_iff] at hnew
    simp [joinedAt?, hnew]
  · have hother : (channel == channelId && user == userId) = false := by simpa using hpair
    simp [joinedAt?, Uuid.text_beq, hother, hpair]

theorem joinedAt?_eraseMember (t : Tables) (channel user channelId userId : Uuid) :
    (t.eraseMember channel.text user.text).joinedAt? channelId.text userId.text =
      (if channel = channelId ∧ user = userId then some none else none).getD
        (t.joinedAt? channelId.text userId.text) := by
  rw [joinedAt?, eraseMember, List.find?_filter]
  by_cases hpair : channel = channelId ∧ user = userId
  · obtain ⟨rfl, rfl⟩ := hpair
    simp only [and_self, if_true, Option.getD_some, Option.map_eq_none_iff, List.find?_eq_none]
    intro m _ hfound
    obtain ⟨hkept, hsought⟩ := of_decide_eq_true hfound
    rw [hsought] at hkept
    cases hkept
  · simp only [hpair, if_false, Option.getD_none, joinedAt?]
    congr 2
    funext m
    rw [Bool.decide_and, Bool.decide_eq_true, Bool.decide_eq_true, Bool.and_eq_right_iff_imp]
    -- of the rows that are sought, none is erased
    intro hsought
    obtain ⟨hchannel, huser⟩ : m.channelId = channelId.text ∧ m.userId = userId.text := by
      simpa using hsought
    have hother : (channelId == channel && userId == user) = false := by
      rw [Bool.eq_false_iff]
      intro hsame
      obtain ⟨rfl, rfl⟩ : channelId = channel ∧ userId = user := by simpa using hsame
      exact hpair ⟨rfl, rfl⟩
    rw [hchannel, huser, Uuid.text_beq, Uuid.text_beq, hother, Bool.not_false]

theorem hasMember_eraseMember (t : Tables) (channel user channelId userId : String) :
    (t.eraseMember channel user).hasMember channelId userId =
      (t.hasMember channelId userId && !(channelId == channel && userId == user)) := by
  rw [hasMember, eraseMember, List.any_filter, hasMember, Bool.eq_iff_iff, Bool.and_eq_true,
    List.any_eq_true, List.any_eq_true]
  constructor
  · rintro ⟨m, hm, hboth⟩
    obtain ⟨hkept, hsame⟩ := Bool.and_eq_true_iff.1 hboth
    obtain ⟨rfl, rfl⟩ : m.channelId = channelId ∧ m.userId = userId := by simpa using hsame
    exact ⟨⟨m, hm, hsame⟩, hkept⟩
  · rintro ⟨⟨m, hm, hsame⟩, hkept⟩
    obtain ⟨rfl, rfl⟩ : m.channelId = channelId ∧ m.userId = userId := by simpa using hsame
    exact ⟨m, hm, Bool.and_eq_true_iff.2 ⟨hkept, hsame⟩⟩

/-- An operation that succeeds makes of the record of a membership what it bears
on, and leaves the others. -/
theorem joinedAt?_apply {op : Operation} {d : Draw} {answer : op.Answer}
    (h : op.apply d t = .ok (answer, u)) (channelId userId : Uuid) :
    u.joinedAt? channelId.text userId.text =
      (Performed.records? channelId userId ⟨op, d, .ok answer⟩).getD
        (t.joinedAt? channelId.text userId.text) := by
  cases op with
  | createUser email password =>
    rcases createUser_eq_ok h with ⟨-, -, rfl⟩ | ⟨-, -, hi⟩
    · rfl
    · obtain ⟨-, -, rfl⟩ := insertUser_eq_ok.1 hi
      rfl
  | createChannel kind name creatorId =>
    obtain ⟨id, v, -, rfl, hc, hm⟩ := createChannel_eq_ok h
    obtain ⟨hnew, -, -, rfl⟩ := insertMember_eq_ok.1 hm
    obtain ⟨-, -, rfl⟩ := insertChannel_eq_ok.1 hc
    exact joinedAt?_append hnew channelId userId
  | addMember channel user =>
    rcases addMember_eq_ok h with ⟨-, rfl, rfl⟩ | ⟨-, rfl, hi⟩
    · rfl
    · obtain ⟨hnew, -, -, rfl⟩ := insertMember_eq_ok.1 hi
      exact joinedAt?_append hnew channelId userId
  | removeMember channel user =>
    cases h
    exact joinedAt?_eraseMember t channel user channelId userId
  | appendMessage new =>
    rcases appendMessage_eq_ok h with ⟨-, -, rfl⟩ | ⟨-, -, hi⟩
    · rfl
    · obtain ⟨-, -, -, rfl⟩ := insertMessage_eq_ok.1 hi
      rfl
  | getUser id => rw [(Operation.asking_eq_ok.1 h).2]; rfl
  | getCredentials email => rw [(Operation.asking_eq_ok.1 h).2]; rfl
  | getChannel id => rw [(Operation.asking_eq_ok.1 h).2]; rfl
  | listChannels => rw [(Operation.asking_eq_ok.1 h).2]; rfl
  | listMembers channelId => rw [(Operation.asking_eq_ok.1 h).2]; rfl
  | listMessages channelId limit before => rw [(Operation.asking_eq_ok.1 h).2]; rfl

/-- An operation that succeeds settles the memberships that it bears on, and no
others. -/
theorem hasMember_apply {op : Operation} {d : Draw} {answer : op.Answer}
    (h : op.apply d t = .ok (answer, u)) (channelId userId : Uuid) :
    u.hasMember channelId.text userId.text =
      (Performed.settles? channelId userId ⟨op, d, .ok answer⟩).getD
        (t.hasMember channelId.text userId.text) := by
  have hrecord := congrArg Option.isSome (joinedAt?_apply h channelId userId)
  rw [isSome_joinedAt?] at hrecord
  rw [hrecord, ← isSome_joinedAt? t]
  cases op with
  | createChannel kind name creatorId =>
    simp only [Performed.records?, Performed.settles?]
    split <;> rfl
  | addMember channel user =>
    rcases addMember_eq_ok h with ⟨hmember, rfl, -⟩ | ⟨-, rfl, -⟩
    · -- the record stays, and it says that the user is a member
      simp only [Performed.records?, Performed.settles?]
      split
      · next hpair => rw [← hpair.1, ← hpair.2, Option.getD_none, isSome_joinedAt?, hmember,
          Option.getD_some]
      · rfl
    · simp only [Performed.records?, Performed.settles?]
      split <;> rfl
  | removeMember channel user =>
    simp only [Performed.records?, Performed.settles?]
    split <;> rfl
  | createUser _ _ => rfl
  | appendMessage _ => rfl
  | getUser _ => rfl
  | getCredentials _ => rfl
  | getChannel _ => rfl
  | listChannels => rfl
  | listMembers _ => rfl
  | listMessages _ _ _ => rfl

end Tables
end ChatServer.Store

namespace ChatServer.Database

open Store

/-- In any store, what comes of an operation settles the memberships that it
bears on, and no others. -/
theorem hasMember_perform (db : Database) (op : Operation) (d : Draw) (channelId userId : Uuid) :
    (db.perform op d).2.tables.hasMember channelId.text userId.text =
      (Performed.settles? channelId userId ⟨op, d, (db.perform op d).1⟩).getD
        (db.tables.hasMember channelId.text userId.text) := by
  cases h : (db.perform op d).1 with
  | error e => rw [Performed.settles?_error, perform_error h, Option.getD_none]
  | ok answer =>
    obtain ⟨-, t, ha, ht⟩ := perform_eq_ok h
    rw [ht]
    exact Tables.hasMember_apply ha channelId userId

/-- In any store, what comes of an operation is recorded of the memberships that
it bears on, and of no others. -/
theorem joinedAt?_perform (db : Database) (op : Operation) (d : Draw) (channelId userId : Uuid) :
    (db.perform op d).2.tables.joinedAt? channelId.text userId.text =
      (Performed.records? channelId userId ⟨op, d, (db.perform op d).1⟩).getD
        (db.tables.joinedAt? channelId.text userId.text) := by
  cases h : (db.perform op d).1 with
  | error e => rw [Performed.records?_error, perform_error h, Option.getD_none]
  | ok answer =>
    obtain ⟨-, t, ha, ht⟩ := perform_eq_ok h
    rw [ht]
    exact Tables.joinedAt?_apply ha channelId userId

end ChatServer.Database

