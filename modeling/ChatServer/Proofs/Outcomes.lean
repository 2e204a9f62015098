import ChatServer.Proofs.Answers
import ChatServer.Proofs.FanOut
import ChatServer.Proofs.Timeline

/-!
# What a request is answered

Every text frame of a session comes to one of four ends, and which one depends
on the frame and on whether the channel that it names is there. A failure of the
store is none of them: after every run whose clock was within four-digit years,
each operation that a handler asks for succeeds.

* `handle_settled`: what each command comes to.
* `respond_outcome`: what each frame comes to.
-/
namespace ChatServer.Action

open Delivery Protocol Store Time

/-! ## Commands -/

def Reply.errorCode? (reply : Reply) : Option ErrorCode :=
  match reply.envelope.content with
  | .error e => some e.code
  | _ => none

/-- The name of a command's tag. -/
def tagName : Command → String
  | .createPublicRoom _ => ActionTag.createPublicRoom.name
  | .createMessage _ _ => ActionTag.createMessage.name
  | .listMessages _ => ActionTag.listMessages.name
  | .joinPublicRoom _ => ActionTag.joinPublicRoom.name
  | .leavePublicRoom _ => ActionTag.leavePublicRoom.name
  | .unknown tag => tag

/-- The error of a target that names no channel. -/
def missing? (t : Tables) (target : String) : Option ErrorCode :=
  if (Uuid.parse? target).any fun id => t.hasChannel id.text then none else some .notFound

/-- The error that a command comes to, where it comes to one. -/
def error? (t : Tables) : Command → Option ErrorCode
  | .createPublicRoom room => if Text.allBlank room.text then some .validationError else none
  | .createMessage target m =>
    if (Uuid.parse? target).isSome && (Text.allBlank m.text || m.createdAt.any fun c =>
      !c.isStorable) then
      some .validationError
    else missing? t target
  | .listMessages target => missing? t target
  | .joinPublicRoom target => missing? t target
  | .leavePublicRoom target => missing? t target
  | .unknown _ => some .protocolError

/-- An outcome is a refusal with this code, or a reply with this tag. -/
inductive Settled (tag : String) : Option ErrorCode → Outcome → Prop
  | refused (r : Refusal) : Settled tag (some r.code) (.error r)
  | answered {reply : Reply} (hcode : reply.errorCode? = none)
      (htag : reply.envelope.tag.name = tag) :
    Settled tag none (.ok reply)

section
variable {s : Session} {d : Draw} {db : Database} {tag : String} {code : Option ErrorCode}

theorem settled_asking {op : Operation} {next : op.Answer → Plan Outcome} (answer : op.Answer)
    (hop : (db.perform op d).1 = .ok answer)
    (h : Settled tag code ((next answer).run d (db.perform op d).2).1) :
    Settled tag code ((asking op next).run d db).1 := by
  rw [asking, Plan.run, hop]
  exact h

/-- A target that names no channel is refused, and otherwise the plan goes on
with the channel. -/
theorem settled_existing {k : Ledger} (hdb : db.Holds k) (hk : k.Dated) {target : String}
    {next : Uuid → Plan Outcome}
    (h : ∀ id : Uuid, db.tables.hasChannel id.text = true →
      Settled tag none ((next id).run d db).1) :
    Settled tag (missing? db.tables target)
      ((checking (targetChannel target) fun id => existing id (next id)).run d db).1 := by
  unfold missing? targetChannel
  cases Uuid.parse? target with
  | none => exact .refused (.noSuchTarget target)
  | some id =>
    obtain ⟨found, hperform, hfound⟩ := perform_getChannel hdb hk id d
    refine settled_asking found (by rw [hperform]) ?_
    rw [hperform, Option.any_some, ← hfound]
    cases found with
    | none => exact .refused (.noSuchChannel id)
    | some c => exact h id (hfound.symm)

theorem settled_announce {k : Ledger} (hdb : db.Holds k) (tag : ActionTag) (id : Uuid) :
    Settled tag.name none ((announce s tag id).run d db).1 := by
  refine settled_asking (k.membersOf id) (by rw [perform_listMembers hdb]) ?_
  exact .answered rfl rfl

/-- A message that is to be appended comes to its channel, where that is
there. -/
theorem settled_post {k : Ledger} (hdb : db.Holds k)
    (huser : db.tables.hasUser s.userId.text = true)
    (hfresh : db.tables.hasMessage d.id.text = false) (id : Uuid) (text : String)
    {createdAt : Timestamp} (htime : createdAt.isStorable = true) :
    Settled ActionTag.createMessage.name
      (if db.tables.hasChannel id.text then none else some .notFound)
      ((asking (.appendMessage ⟨id, s.id, s.userId, text, createdAt⟩) fun
        | none => .done (.error (.noSuchChannel id))
        | some message =>
          asking (.listMembers id) fun members =>
          .done (.ok (.toChannel s members .createMessage id (.message (.ofMessage message))))).run
        d db).1 := by
  obtain ⟨posted, hposted, hfound⟩ :=
    perform_appendMessage hdb ⟨id, s.id, s.userId, text, createdAt⟩ huser htime hfresh
  refine settled_asking posted hposted ?_
  rw [← hfound]
  cases posted with
  | none => exact .refused (.noSuchChannel id)
  | some message =>
    have hmembers := perform_listMembers
      (hdb.perform (.appendMessage ⟨id, s.id, s.userId, text, createdAt⟩) d) id d
    refine settled_asking _ (by rw [hmembers]) ?_
    exact .answered rfl rfl

/-- Where the clock is right, the user is there and the identifier drawn is
free, the error that a command comes to depends on what it says and on the
channels that are there, and is no failure of the store. -/
theorem handle_settled {k : Ledger} (hdb : db.Holds k) (hk : k.Dated)
    (huser : db.tables.hasUser s.userId.text = true) (hnow : d.now.hasFourDigitYear = true)
    (hchannel : db.tables.hasChannel d.id.text = false)
    (hmessage : db.tables.hasMessage d.id.text = false) (command : Command) :
    Settled (tagName command) (error? db.tables command) ((handle s d.now command).run d db).1 := by
  cases command with
  | unknown tag => exact .refused (.unknownTag tag)
  | createPublicRoom room =>
    rw [handle, createRoom, error?, writtenText]
    cases Text.allBlank room.text with
    | true => exact .refused (.blankText .room)
    | false =>
      refine settled_asking _ (perform_createChannel hdb huser hchannel .publicRoom room.text) ?_
      exact .answered rfl rfl
  | listMessages target =>
    refine settled_existing hdb hk fun id _ => ?_
    exact settled_asking _ (answer_listMessages hdb id listLimit none d) (.answered rfl rfl)
  | joinPublicRoom target =>
    refine settled_existing hdb hk fun id hid => ?_
    obtain ⟨added, hadded⟩ := perform_addMember hdb huser hid d
    exact settled_asking added hadded (settled_announce (hdb.perform _ _) .joinPublicRoom id)
  | leavePublicRoom target =>
    refine settled_existing hdb hk fun id _ => ?_
    have hremoved : (db.perform (.removeMember id s.userId) d).1 =
        .ok (db.tables.hasMember id.text s.userId.text) := by
      rw [Database.perform_healthy hdb.healthy]
      rfl
    exact settled_asking _ hremoved (settled_announce (hdb.perform _ _) .leavePublicRoom id)
  | createMessage target m =>
    rw [handle, createMessage, error?, missing?, targetChannel]
    cases Uuid.parse? target with
    | none => exact .refused (.noSuchTarget target)
    | some id =>
      rw [writtenText]
      cases Text.allBlank m.text with
      | true => exact .refused (.blankText .message)
      | false =>
        cases htime : m.createdAt with
        | none => exact settled_post hdb huser hmessage id m.text hnow
        | some c =>
          rw [messageTime, Option.any_some]
          cases hc : c.isStorable with
          | true => exact settled_post hdb huser hmessage id m.text hc
          | false => exact .refused (.unorderableTime c.text)

end

/-! ## Frames -/

/-- The frame is no envelope, its tag is none that clients may send, or the
content of a creation is not what its tag asks for. -/
def ProtocolFault (text : String) : Prop :=
  match Inbound.parse text with
  | .error _ => True
  | .ok e =>
    (∀ tag ∈ ActionTag.clientTags, e.tag ≠ tag.name) ∨
    (e.tag = ActionTag.createPublicRoom.name ∧
      ∀ room, RoomRequest.codec.ofValue e.content ≠ .ok room) ∨
    (e.tag = ActionTag.createMessage.name ∧ ∀ m, MessageRequest.codec.ofValue e.content ≠ .ok m)

/-- A room has a blank name; or a message to a target that is an identifier is
blank, or of a time outside the years that can be ordered. -/
def ValidationFault (text : String) : Prop :=
  ∃ e, Inbound.parse text = .ok e ∧
    ((e.tag = ActionTag.createPublicRoom.name ∧ ∃ room, RoomRequest.codec.ofValue e.content = .ok room ∧
      ∀ c ∈ room.text.toList, Text.isBlank c = true) ∨
    (e.tag = ActionTag.createMessage.name ∧ (∃ id, Uuid.parse? e.target = some id) ∧
      ∃ m, MessageRequest.codec.ofValue e.content = .ok m ∧
        ((∀ c ∈ m.text.toList, Text.isBlank c = true) ∨
          ∃ t, m.createdAt = some t ∧ ¬ (0 ≤ t.instant.date.year ∧ t.instant.date.year ≤ 9999))))

/-- A request other than for a new room has a target that is no identifier, or
names no channel. -/
def MissingTarget (t : Tables) (text : String) : Prop :=
  ∃ e, Inbound.parse text = .ok e ∧ e.tag ≠ ActionTag.createPublicRoom.name ∧
    ∀ id, Uuid.parse? e.target = some id → t.hasChannel id.text = false

/-- What an envelope asks for, where its tag is a client's and its content is
what the tag asks for. -/
inductive Asks (e : Inbound) : Command → Prop
  | createPublicRoom {room : RoomRequest} (htag : e.tag = ActionTag.createPublicRoom.name)
    (hroom : RoomRequest.codec.ofValue e.content = .ok room) : Asks e (.createPublicRoom room)
  | createMessage {m : MessageRequest} (htag : e.tag = ActionTag.createMessage.name)
    (hm : MessageRequest.codec.ofValue e.content = .ok m) : Asks e (.createMessage e.target m)
  | listMessages (htag : e.tag = ActionTag.listMessages.name) : Asks e (.listMessages e.target)
  | joinPublicRoom (htag : e.tag = ActionTag.joinPublicRoom.name) :
      Asks e (.joinPublicRoom e.target)
  | leavePublicRoom (htag : e.tag = ActionTag.leavePublicRoom.name) :
      Asks e (.leavePublicRoom e.target)

/-- An envelope is at fault and has no command that clients may give, or asks
for what its command says. -/
theorem fault_or_asks {text : String} {e : Inbound} (he : Inbound.parse text = .ok e) :
    (ProtocolFault text ∧ ∀ command, e.command = .ok command → command = .unknown e.tag) ∨
      (¬ ProtocolFault text ∧ ∃ command, e.command = .ok command ∧ Asks e command) := by
  unfold ProtocolFault
  rw [he]
  dsimp only
  cases hfound : ActionTag.ofName? e.tag with
  | none =>
    refine .inl ⟨.inl ?_, ?_⟩
    · intro tag _ htag
      rw [htag, ActionTag.ofName?_name] at hfound
      cases hfound
    · intro command hcommand
      rw [Inbound.command_unknown hfound] at hcommand
      exact (Except.ok.inj hcommand).symm
  | some tag =>
    have htag : e.tag = tag.name := ActionTag.ofName?_eq_some hfound
    cases tag with
    | error =>
      refine .inl ⟨.inl ?_, ?_⟩
      · simp [htag, ActionTag.name_inj, ActionTag.clientTags]
      · intro command hcommand
        rw [Inbound.command, hfound] at hcommand
        exact (Except.ok.inj hcommand).symm
    | createPublicRoom =>
      cases hroom : RoomRequest.codec.ofValue e.content with
      | error f =>
        refine .inl ⟨.inr (.inl ⟨htag, by simp⟩), ?_⟩
        simp [Inbound.command, hfound, Inbound.contentAs_error hroom, Except.map]
      | ok room =>
        refine .inr ⟨?_, _, ?_, .createPublicRoom htag hroom⟩
        · simp [htag, ActionTag.name_inj, ActionTag.clientTags]
        · simp [Inbound.command, hfound, Inbound.contentAs_ok hroom, Except.map]
    | createMessage =>
      cases hm : MessageRequest.codec.ofValue e.content with
      | error f =>
        refine .inl ⟨.inr (.inr ⟨htag, by simp⟩), ?_⟩
        simp [Inbound.command, hfound, Inbound.contentAs_error hm, Except.map]
      | ok m =>
        refine .inr ⟨?_, _, ?_, .createMessage htag hm⟩
        · simp [htag, ActionTag.name_inj, ActionTag.clientTags]
        · simp [Inbound.command, hfound, Inbound.contentAs_ok hm, Except.map]
    | listMessages =>
      refine .inr ⟨?_, _, by simp [Inbound.command, hfound], .listMessages htag⟩
      simp [htag, ActionTag.name_inj, ActionTag.clientTags]
    | joinPublicRoom =>
      refine .inr ⟨?_, _, by simp [Inbound.command, hfound], .joinPublicRoom htag⟩
      simp [htag, ActionTag.name_inj, ActionTag.clientTags]
    | leavePublicRoom =>
      refine .inr ⟨?_, _, by simp [Inbound.command, hfound], .leavePublicRoom htag⟩
      simp [htag, ActionTag.name_inj, ActionTag.clientTags]

theorem Asks.tagName {e : Inbound} {command : Command} (h : Asks e command) :
    tagName command = e.tag := by
  cases h with
  | createPublicRoom htag _ => exact htag.symm
  | createMessage htag _ => exact htag.symm
  | listMessages htag => exact htag.symm
  | joinPublicRoom htag => exact htag.symm
  | leavePublicRoom htag => exact htag.symm

/-! ## The first fault -/

/-- The code of a frame's error is that of its first fault, and there is none
without a fault. -/
structure FirstFault (t : Tables) (text : String) (code : Option ErrorCode) : Prop where
  protocolError : code = some .protocolError ↔ ProtocolFault text
  validationError : code = some .validationError ↔ ¬ ProtocolFault text ∧ ValidationFault text
  notFound : code = some .notFound ↔
    ¬ ProtocolFault text ∧ ¬ ValidationFault text ∧ MissingTarget t text
  serverError : code ≠ some .serverError
  success : code = none ↔ ¬ ProtocolFault text ∧ ¬ ValidationFault text ∧ ¬ MissingTarget t text

namespace FirstFault

variable {t : Tables} {text : String}

theorem protocol (h : ProtocolFault text) : FirstFault t text (some .protocolError) := by
  constructor <;> simp [h]

theorem validation (hread : ¬ ProtocolFault text) (h : ValidationFault text) :
    FirstFault t text (some .validationError) := by
  constructor <;> simp [hread, h]

theorem missing (hread : ¬ ProtocolFault text) (hvalid : ¬ ValidationFault text)
    (h : MissingTarget t text) : FirstFault t text (some .notFound) := by
  constructor <;> simp [hread, hvalid, h]

theorem none (hread : ¬ ProtocolFault text) (hvalid : ¬ ValidationFault text)
    (hthere : ¬ MissingTarget t text) : FirstFault t text .none := by
  constructor <;> simp [hread, hvalid, hthere]

end FirstFault

theorem not_storable_iff {t : Timestamp} :
    (!t.isStorable) = true ↔ ¬ (0 ≤ t.instant.date.year ∧ t.instant.date.year ≤ 9999) := by
  simp only [Timestamp.isStorable, Instant.hasFourDigitYear, Bool.not_eq_true',
    Bool.and_eq_false_iff,
    decide_eq_false_iff_not]
  omega

section
variable {text : String} {e : Inbound} (he : Inbound.parse text = .ok e)
    (hread : ¬ ProtocolFault text)
include he

theorem missingTarget_iff {t : Tables} (htag : e.tag ≠ ActionTag.createPublicRoom.name) :
    MissingTarget t text ↔ ¬ ((Uuid.parse? e.target).any fun id => t.hasChannel id.text) =
      true := by
  cases hid : Uuid.parse? e.target <;> simp [MissingTarget, he, htag, hid]

include hread

/-- Where the request is valid, only its target counts. -/
theorem firstFault_missing? (t : Tables) (htag : e.tag ≠ ActionTag.createPublicRoom.name)
    (hvalid : ¬ ValidationFault text) : FirstFault t text (missing? t e.target) := by
  have hmissing := missingTarget_iff he (t := t) htag
  unfold missing?
  split
  · next hthere => exact .none hread hvalid fun h => hmissing.1 h hthere
  · next hgone => exact .missing hread hvalid (hmissing.2 hgone)

/-- An envelope that asks for something comes to the first fault that
applies. -/
theorem firstFault_error? (t : Tables) {command : Command} (h : Asks e command) :
    FirstFault t text (error? t command) := by
  cases h with
  | @createPublicRoom room htag hroom =>
    have hfault : ValidationFault text ↔ Text.allBlank room.text = true := by
      simp [ValidationFault, he, htag, ActionTag.name_inj, hroom, Text.allBlank_iff]
    have hthere : ¬ MissingTarget t text := by simp [MissingTarget, he, htag]
    rw [error?]
    split
    · next hblank => exact .validation hread (hfault.2 hblank)
    · next hblank => exact .none hread (fun hv => hblank (hfault.1 hv)) hthere
  | @createMessage m htag hm =>
    have hroom : e.tag ≠ ActionTag.createPublicRoom.name := by simp [htag, ActionTag.name_inj]
    have hfault : ValidationFault text ↔ ((Uuid.parse? e.target).isSome &&
        (Text.allBlank m.text || m.createdAt.any fun c => !c.isStorable)) = true := by
      simp only [ValidationFault, he, htag, ActionTag.name_inj, hm, Except.ok.injEq,
        exists_eq_left',
        Bool.and_eq_true, Bool.or_eq_true, Option.isSome_iff_exists, Text.allBlank_iff,
        Option.any_eq_true, not_storable_iff]
      simp
    rw [error?]
    split
    · next hbad => exact .validation hread (hfault.2 hbad)
    · next hbad => exact firstFault_missing? he hread t hroom fun hv => hbad (hfault.1 hv)
  | listMessages htag =>
    exact firstFault_missing? he hread t (by simp [htag, ActionTag.name_inj])
      (by simp [ValidationFault, he, htag, ActionTag.name_inj])
  | joinPublicRoom htag =>
    exact firstFault_missing? he hread t (by simp [htag, ActionTag.name_inj])
      (by simp [ValidationFault, he, htag, ActionTag.name_inj])
  | leavePublicRoom htag =>
    exact firstFault_missing? he hread t (by simp [htag, ActionTag.name_inj])
      (by simp [ValidationFault, he, htag, ActionTag.name_inj])

end

/-! ## Replies -/

/-- What a text frame of session `s` is answered, where the channels of `t` are
there. -/
structure OutcomeTable (t : Tables) (s : Session) (text : String) (reply : Reply) : Prop where
  code : FirstFault t text reply.errorCode?
  /-- The tag of a success is that of the request. -/
  tag : reply.errorCode? = none → ∃ e, Inbound.parse text = .ok e ∧ reply.envelope.tag.name = e.tag
  /-- An error goes to the session that asked. -/
  origin : ∀ error, reply.envelope.content = .error error →
    reply.audience = .session s.id ∧ reply.envelope.tag = .error
  /-- It names no tag and no target when the frame is no envelope, -/
  unread : ∀ error, reply.envelope.content = .error error → ∀ f, Inbound.parse text = .error f →
    error.requestActionTag = none ∧ reply.envelope.targetId = ""
  /-- and those of the envelope otherwise. -/
  echoed : ∀ error, reply.envelope.content = .error error → ∀ e, Inbound.parse text = .ok e →
    error.requestActionTag = some e.tag ∧ reply.envelope.targetId = e.target

/-- The reply to a frame that is no envelope. -/
theorem outcomeTable_unread {t : Tables} {s : Session} {text : String} {f : DecodeError}
    (h : Inbound.parse text = .error f) :
    OutcomeTable t s text (.refuse s (.undecoded f) none "") where
  code := .protocol (by simp [ProtocolFault, h])
  tag hnone := by cases hnone
  origin _ _ := ⟨rfl, rfl⟩
  unread error herror _ _ := by
    cases herror
    exact ⟨rfl, rfl⟩
  echoed _ _ e he := by
    rw [h] at he
    cases he

/-- The reply to an envelope, where its outcome has the code of the first
fault. -/
theorem outcomeTable_conclude {t : Tables} {s : Session} {text : String} {e : Inbound}
    (he : Inbound.parse text = .ok e) {code : Option ErrorCode} {outcome : Outcome}
    (h : Settled e.tag code outcome) (hcode : FirstFault t text code) :
    OutcomeTable t s text (conclude s e outcome) := by
  cases h with
  | refused r =>
    refine ⟨hcode, ?_, fun _ _ => ⟨rfl, rfl⟩, ?_, ?_⟩
    · intro hnone
      cases hnone
    · intro _ _ f hf
      rw [he] at hf
      cases hf
    · intro error herror e' he'
      obtain rfl : e = e' := Except.ok.inj (he.symm.trans he')
      cases herror
      exact ⟨rfl, rfl⟩
  | @answered reply hnone htag =>
    have hno (error : ErrorContent) : reply.envelope.content ≠ .error error := by
      intro hcontent
      simp [Reply.errorCode?, hcontent] at hnone
    refine ⟨?_, fun _ => ⟨e, he, htag⟩, ?_, ?_, ?_⟩
    · rw [conclude, hnone]
      exact hcode
    · exact fun error herror => (hno error herror).elim
    · exact fun error herror => (hno error herror).elim
    · exact fun error herror => (hno error herror).elim

/-- **Every frame's outcome.** After every run whose clock was within four-digit
years, a frame of a session whose user is there, with an identifier drawn that
is free, comes to its first fault, or to a success without one; the store never
fails. -/
theorem respond_outcome {steps : List Step} (hclock : ∀ step ∈ steps, step.Timely) {s : Session}
    (huser : (Database.empty.run steps).tables.hasUser s.userId.text = true) {d : Draw}
    (hnow : d.now.hasFourDigitYear = true)
    (hchannel : (Database.empty.run steps).tables.hasChannel d.id.text = false)
    (hmessage : (Database.empty.run steps).tables.hasMessage d.id.text = false) (text : String) :
    OutcomeTable (Database.empty.run steps).tables s text
      ((respond s d.now text).run d (Database.empty.run steps)).1 := by
  have hdb := holds_ledgerOf steps
  have hdated : (ledgerOf steps).Dated := Ledger.dated_empty.run Database.holds_empty hclock
  generalize Database.empty.run steps = db at *
  unfold respond
  cases hparse : Inbound.parse text with
  | error f => exact outcomeTable_unread hparse
  | ok e =>
    dsimp only
    rcases fault_or_asks hparse with ⟨hfault, hunknown⟩ | ⟨hread, command, hcommand, hasks⟩
    · cases hcommand : e.command with
      | error f => exact outcomeTable_conclude hparse (.refused (.undecoded f)) (.protocol hfault)
      | ok command =>
        obtain rfl := hunknown command hcommand
        exact outcomeTable_conclude hparse (.refused (.unknownTag e.tag)) (.protocol hfault)
    · rw [hcommand]
      dsimp only
      rw [Plan.run_map]
      have hsettled := handle_settled hdb hdated huser hnow hchannel hmessage command
      rw [hasks.tagName] at hsettled
      exact outcomeTable_conclude hparse hsettled (firstFault_error? hparse hread db.tables hasks)

theorem respond_outcome_sample :
    OutcomeTable (Database.empty.run sampleSteps).tables sampleSession sampleJoin
      ((respond sampleSession sampleNoon sampleJoin).run (sampleDraw 10)
        (Database.empty.run sampleSteps)).1 := by
  refine respond_outcome ?_ (by decide +kernel) (by decide) (by decide +kernel) (by decide +kernel) _
  intro step hstep
  simp only [sampleSteps, List.mem_cons, List.not_mem_nil, or_false] at hstep
  rcases hstep with rfl | rfl | rfl | rfl <;> exact rfl

end ChatServer.Action

