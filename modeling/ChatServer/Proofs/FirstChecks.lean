import ChatServer.Proofs.Halfway
import ChatServer.Proofs.Replies

/-!
# What is refused at sight

A request is checked before the store is asked: whether it can be read, whether
its target is an identifier, whether its text is blank, whether its time can be
ordered. What fails one of these checks is refused for what it says alone, so
the refusal tells nothing of the store and needs nothing of it. All other
requests begin with a question to the store. Where that is not answered the
client is told that much and no more, whatever the cause.

* `handle_sight`: a command is refused at sight, or the store is asked first
  (`AsksFirst`), and then nothing but a missing channel and a failure of the
  store is refused (`Late`).
* `respond_sight`: the same of frames.
* `respond_storeBlind`: two runs of a frame, on any two stores.
-/
namespace ChatServer.Store

/-! ## All that a plan may end in -/

/-- The plan ends in nothing else than this, whatever the store answers. -/
def Plan.Always {α : Type} (P : α → Prop) (p : Plan α) : Prop := ∀ x, p.MayEnd x → P x

theorem Plan.always_done {α : Type} {P : α → Prop} {x : α} (h : P x) : (Plan.done x).Always P := by
  rintro y rfl
  exact h

end ChatServer.Store

namespace ChatServer.Protocol

/-- The channel that a command is about, where it has a target and that is an
identifier. -/
def Command.channel? : Command → Option Uuid
  | createPublicRoom _ => none
  | createMessage target _ => Uuid.parse? target
  | listMessages target => Uuid.parse? target
  | joinPublicRoom target => Uuid.parse? target
  | leavePublicRoom target => Uuid.parse? target
  | unknown _ => none

end ChatServer.Protocol

namespace ChatServer.Action

open Delivery Protocol Store Time

/-! ## Refusals at sight, and late ones -/

/-- A refusal of a request with this target that the request alone is the reason
for. -/
def AtSight (target : String) (r : Refusal) : Prop :=
  r.code = .protocolError ∨ r.code = .validationError ∨
    (r.code = .notFound ∧ Uuid.parse? target = none)

/-- What a command about this channel, or about none, comes to once the store
has been asked. -/
inductive Late (channel? : Option Uuid) : Outcome → Prop
  | replied {reply : Reply} (hcode : reply.errorCode? = none)
    (htarget : ∀ id ∈ channel?, reply.envelope.targetId = id.text) : Late channel? (.ok reply)
  | missing {id : Uuid} (hid : id ∈ channel?) : Late channel? (.error (.noSuchChannel id))
  | failed (e : Store.Error) : Late channel? (.error (.store e))

/-- A plan that asks the store before all else. -/
inductive AsksFirst (channel? : Option Uuid) : Plan Outcome → Prop
  | asking {op : Operation} {next : op.Answer → Plan Outcome}
    (h : ∀ answer, (next answer).Always (Late channel?)) : AsksFirst channel? (asking op next)

/-- What comes of the checks of a request: a refusal at sight, which is the same
at every moment, or a plan that asks. -/
inductive Checked (target : String) (channel? : Option Uuid) (plan : Instant → Plan Outcome) : Prop
  | atSight (r : Refusal) (hr : AtSight target r) (hplan : ∀ now, plan now = .done (.error r))
  | asksFirst (h : ∀ now, AsksFirst channel? (plan now))

section
variable {channel? : Option Uuid} {p : Plan Outcome}

theorem AsksFirst.late (h : AsksFirst channel? p) : p.Always (Late channel?) := by
  cases h with
  | asking h =>
    rintro outcome ⟨answer, hend⟩
    cases answer with
    | error e =>
      obtain rfl : Except.error (Refusal.store e) = outcome := hend
      exact .failed e
    | ok answer => exact h answer outcome hend

/-- A store that is poisoned answers nothing. -/
theorem AsksFirst.run_poisoned (h : AsksFirst channel? p) {db : Database} (hdb : db.poisoned = true)
    (d : Draw) :
    p.run d db = (.error (.store .poisoned), db) := by
  cases h with
  | asking h => exact run_asking_error (by rw [Database.perform_poisoned hdb])

theorem always_reply {reply : Reply} (hcode : reply.errorCode? = none)
    (htarget : ∀ id ∈ channel?, reply.envelope.targetId = id.text) :
    (Plan.done (.ok reply)).Always (Late channel?) :=
  Plan.always_done (.replied hcode htarget)

end

/-! ## Commands -/

section
variable {s : Session} {id : Uuid}

theorem asksFirst_existing {next : Plan Outcome} (h : next.Always (Late (some id))) :
    AsksFirst (some id) (existing id next) := by
  refine .asking fun found => ?_
  cases found with
  | none => exact Plan.always_done (.missing rfl)
  | some c => exact h

/-- Whoever the members are, they are told what is no error. -/
theorem asksFirst_members {tag : ActionTag} {content : Content}
    (hcode : ∀ members, (Reply.toChannel s members tag id content).errorCode? = none) :
    AsksFirst (some id) (asking (.listMembers id) fun members =>
      .done (.ok (.toChannel s members tag id content))) := by
  refine .asking fun members => always_reply (hcode members) ?_
  rintro _ ⟨⟩
  rfl

/-- Where the target is no identifier, a plan for a channel is refused at
sight. -/
theorem checked_target {target : String} {next : Uuid → Plan Outcome}
    (h : ∀ id, AsksFirst (some id) (next id)) :
    Checked target (Uuid.parse? target) fun _ => checking (targetChannel target) next := by
  unfold targetChannel
  cases hid : Uuid.parse? target with
  | none => exact .atSight (.noSuchTarget target) (.inr (.inr ⟨rfl, hid⟩)) fun _ => rfl
  | some id => exact .asksFirst fun _ => h id

end

/-- The time of a message is refused whenever that is, or never. -/
theorem messageTime_cases (createdAt : Option Timestamp) :
    (∃ text, ∀ now, messageTime now createdAt = .error (.unorderableTime text)) ∨
      ∀ now, ∃ t, messageTime now createdAt = .ok t := by
  cases createdAt with
  | none => exact .inr fun now => ⟨_, rfl⟩
  | some t =>
    cases ht : t.isStorable with
    | true => exact .inr fun now => ⟨t, by rw [messageTime, ht, if_pos rfl]⟩
    | false => exact .inl ⟨t.text, fun now => by rw [messageTime, ht, if_neg (by decide)]⟩

/-- Every command of a client is refused at sight, or asks the store first. -/
theorem handle_sight (s : Session) {e : Inbound} {command : Command} (h : Asks e command) :
    Checked e.target command.channel? fun now => handle s now command := by
  cases h with
  | @createPublicRoom room htag hroom =>
    simp only [handle, createRoom, writtenText]
    cases Text.allBlank room.text with
    | true => exact .atSight (.blankText .room) (.inr (.inl rfl)) fun _ => rfl
    | false => exact .asksFirst fun _ => .asking fun channel => always_reply rfl (by rintro _ ⟨⟩)
  | @createMessage m htag hm =>
    simp only [handle, createMessage, targetChannel, writtenText, Command.channel?]
    cases hid : Uuid.parse? e.target with
    | none => exact .atSight (.noSuchTarget e.target) (.inr (.inr ⟨rfl, hid⟩)) fun _ => rfl
    | some id =>
      cases Text.allBlank m.text with
      | true => exact .atSight (.blankText .message) (.inr (.inl rfl)) fun _ => rfl
      | false =>
        obtain ⟨text, htime⟩ | htime := messageTime_cases m.createdAt
        · exact .atSight (.unorderableTime text) (.inr (.inl rfl)) fun now => by rw [htime now]; rfl
        · refine .asksFirst fun now => ?_
          obtain ⟨t, ht⟩ := htime now
          rw [ht]
          refine AsksFirst.asking fun posted => ?_
          cases posted with
          | none => exact Plan.always_done (.missing rfl)
          | some message => exact (asksFirst_members fun _ => rfl).late
  | listMessages htag =>
    refine checked_target fun id => asksFirst_existing (AsksFirst.asking fun messages => ?_).late
    exact always_reply rfl fun _ hid => Option.some.inj hid ▸ rfl
  | joinPublicRoom htag =>
    refine checked_target fun id => asksFirst_existing (AsksFirst.asking fun added => ?_).late
    exact (asksFirst_members fun _ => rfl).late
  | leavePublicRoom htag =>
    refine checked_target fun id => asksFirst_existing (AsksFirst.asking fun removed => ?_).late
    exact (asksFirst_members fun _ => rfl).late

/-! ## Frames -/

/-- The frame is refused for what it says alone: it cannot be read, it is not
valid, or its target is no identifier. -/
def OnSight (text : String) (reply : Reply) : Prop :=
  reply.errorCode? = some .protocolError ∨ reply.errorCode? = some .validationError ∨
    (reply.errorCode? = some .notFound ∧ ∃ e, Inbound.parse text = .ok e ∧
      Uuid.parse? e.target = none)

/-- What a session is told of a failure of the store: a part of its own request,
and the same words each time. -/
def failure (s : Session) (e : Inbound) : Reply :=
  ⟨.session s.id, .ofError ⟨.serverError, "internal server error", some e.tag⟩ e.target s.id⟩

section
variable {s : Session} {text : String} {e : Inbound} {channel? : Option Uuid} {outcome : Outcome}

theorem errorCode?_refused (r : Refusal) : (conclude s e (.error r)).errorCode? = some r.code := rfl

theorem onSight_refused (he : Inbound.parse text = .ok e) {r : Refusal} (h : AtSight e.target r) :
    OnSight text (conclude s e (.error r)) := by
  rcases h with h | h | ⟨h, hid⟩
  · exact .inl (by rw [errorCode?_refused, h])
  · exact .inr (.inl (by rw [errorCode?_refused, h]))
  · exact .inr (.inr ⟨by rw [errorCode?_refused, h], e, he, hid⟩)

/-- Once the store has been asked, nothing is said that could have been said at
sight. -/
theorem Late.not_onSight (h : Late channel? outcome) (he : Inbound.parse text = .ok e)
    (htarget : ∀ id ∈ channel?, Uuid.parse? e.target = some id) :
    ¬ OnSight text (conclude s e outcome) := by
  cases h with
  | replied hcode _ => simp [OnSight, conclude, hcode]
  | failed err => simp [OnSight, errorCode?_refused, Refusal.code]
  | missing hid => simp [OnSight, errorCode?_refused, Refusal.code, he, htarget _ hid]

theorem Late.masked (h : Late channel? outcome)
    (hcode : (conclude s e outcome).errorCode? = some .serverError) :
    conclude s e outcome = failure s e := by
  cases h with
  | replied hnone _ => simp [conclude, hnone] at hcode
  | missing _ => cases hcode
  | failed err => rfl

theorem Asks.target_eq {command : Command} (h : Asks e command) :
    ∀ id ∈ command.channel?, Uuid.parse? e.target = some id := by
  cases h with
  | createPublicRoom => nofun
  | _ => exact fun _ hid => hid

/-- A frame is refused at sight, whatever the moment, or the store is asked
before anything is said. -/
theorem respond_sight (s : Session) (text : String) :
    (∃ reply, OnSight text reply ∧ ∀ now, respond s now text = .done reply) ∨
      ∃ e channel?, Inbound.parse text = .ok e ∧ (∀ id ∈ channel?, Uuid.parse? e.target = some id) ∧
        ∀ now, ∃ p, AsksFirst channel? p ∧ respond s now text = p.map (conclude s e) := by
  cases hparse : Inbound.parse text with
  | error f => exact .inl ⟨_, .inl rfl, fun now => respond_undecoded hparse⟩
  | ok e =>
    have refused (r : Refusal) (hr : AtSight e.target r)
        (h : ∀ now, respond s now text = .done (conclude s e (.error r))) :
        ∃ reply, OnSight text reply ∧ ∀ now, respond s now text = .done reply :=
      ⟨_, onSight_refused hparse hr, h⟩
    rcases fault_or_asks hparse with ⟨-, hunknown⟩ | ⟨-, command, hcommand, hasks⟩
    · cases hcommand : e.command with
      | error f =>
        exact .inl (refused (.undecoded f) (.inl rfl) fun now => by simp [respond, hparse, hcommand])
      | ok command =>
        obtain rfl := hunknown command hcommand
        exact .inl (refused (.unknownTag e.tag) (.inl rfl) fun now => respond_decoded hparse hcommand)
    · cases handle_sight s hasks with
      | atSight r hr hplan =>
        refine .inl (refused r hr fun now => ?_)
        rw [respond_decoded hparse hcommand, hplan now]
        rfl
      | asksFirst h =>
        exact .inr ⟨e, command.channel?, rfl, hasks.target_eq,
          fun now => ⟨_, h now, respond_decoded hparse hcommand⟩⟩

end

/-! ## Two runs -/

/-- What two runs of a frame on different stores have in common. Their draws may
be different, too. -/
structure StoreBlind (s : Session) (text : String) : Prop where
  /-- What is refused at sight with one store is answered alike with every
  other, and both stay as they are. -/
  alike : ∀ (d d' : Draw) (db db' : Database), OnSight text ((respond s d.now text).run d db).1 →
    ((respond s d'.now text).run d' db').1 = ((respond s d.now text).run d db).1 ∧
    ((respond s d.now text).run d db).2 = db ∧ ((respond s d'.now text).run d' db').2 = db'
  /-- With a poisoned store, what is not refused at sight (with any store) is
  answered with a failure. -/
  poisoned : ∀ (d d' : Draw) (db db' : Database), db.poisoned = true →
    ¬ OnSight text ((respond s d'.now text).run d' db').1 →
    ∃ e, Inbound.parse text = .ok e ∧ (respond s d.now text).run d db = (failure s e, db)
  /-- A failure of a store is told in the same words, whatever its cause. -/
  masked : ∀ (d : Draw) (db : Database),
    ((respond s d.now text).run d db).1.errorCode? = some .serverError →
    ∃ e, Inbound.parse text = .ok e ∧ ((respond s d.now text).run d db).1 = failure s e

/-- **Refusals that need no data do not depend on the store.** Every frame of
every session is refused at sight with all stores, moments and draws alike, and
without a trace, or with none; and then a poisoned store fails it, and what is
told of that and of every other failure is the session's own request and fixed
words. -/
theorem respond_storeBlind (s : Session) (text : String) : StoreBlind s text := by
  obtain ⟨reply, hsight, hplan⟩ | ⟨e, channel?, hparse, htarget, hplan⟩ := respond_sight s text
  · have hrun (d : Draw) (db : Database) : (respond s d.now text).run d db = (reply, db) := by
      rw [hplan d.now]
      rfl
    refine ⟨?_, ?_, ?_⟩
    · intro d d' db db' _
      simp only [hrun, and_self]
    · intro d d' db db' _ hnot
      rw [hrun] at hnot
      exact absurd hsight hnot
    · intro d db hcode
      rw [hrun] at hcode
      simp [OnSight, hcode] at hsight
  · have hlate (d : Draw) (db : Database) : ∃ outcome, Late channel? outcome ∧
        ((respond s d.now text).run d db).1 = conclude s e outcome := by
      obtain ⟨p, hp, hrespond⟩ := hplan d.now
      exact ⟨_, hp.late _ (p.mayEnd_run d db), by rw [hrespond, Plan.run_map]⟩
    refine ⟨?_, ?_, ?_⟩
    · intro d d' db db' hsight
      obtain ⟨outcome, houtcome, hreply⟩ := hlate d db
      rw [hreply] at hsight
      exact absurd hsight (houtcome.not_onSight hparse htarget)
    · intro d d' db db' hpoisoned _
      obtain ⟨p, hp, hrespond⟩ := hplan d.now
      refine ⟨e, hparse, ?_⟩
      rw [hrespond, Plan.run_map, hp.run_poisoned hpoisoned d]
      rfl
    · intro d db hcode
      obtain ⟨outcome, houtcome, hreply⟩ := hlate d db
      rw [hreply] at hcode ⊢
      exact ⟨e, hparse, houtcome.masked hcode⟩

def sampleNameless : String :=
  "\x7b\"action_tag\":\"CREATE_PUBLIC_ROOM\",\"content\":\x7b\"text\":\" \"\x7d\x7d"

/-- A nameless room is refused alike with an empty store and with a poisoned
one, which fails a request to join. -/
theorem respond_storeBlind_sample :
    let there := Database.empty.run sampleSteps
    ((respond sampleSession sampleNoon sampleNameless).run (sampleDraw 5) there.poison).1 =
      ((respond sampleSession sampleNoon sampleNameless).run (sampleDraw 6) .empty).1 ∧
    ∃ e, Inbound.parse sampleJoin = .ok e ∧
      (respond sampleSession sampleNoon sampleJoin).run (sampleDraw 5) there.poison =
        (failure sampleSession e, there.poison) := by
  intro there
  have hblank : ((respond sampleSession sampleNoon sampleNameless).run (sampleDraw 6)
      .empty).1.errorCode? = some .validationError := by decide +kernel
  have hjoins : ((respond sampleSession sampleNoon sampleJoin).run (sampleDraw 6)
      there).1.errorCode? = none := by decide +kernel
  refine ⟨?_, ?_⟩
  · exact ((respond_storeBlind sampleSession sampleNameless).alike (sampleDraw 6)
      (sampleDraw 5) .empty there.poison
      (.inr (.inl hblank))).1
  · refine (respond_storeBlind sampleSession sampleJoin).poisoned (sampleDraw 5)
      (sampleDraw 6) there.poison there rfl ?_
    show ¬ OnSight sampleJoin ((respond sampleSession sampleNoon sampleJoin).run (sampleDraw 6) there).1
    simp [OnSight, hjoins]

end ChatServer.Action

