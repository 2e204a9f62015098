import ChatServer.Action.Reply
import ChatServer.Store.Plan
import ChatServer.Text.Blank

/-!
# Handling requests

What is done for each command. A handler is a plan of store operations that ends
in a reply or a refusal; it touches no queue. What needs no data is checked
before the store is asked: first the target, then the text, then the time.

* `respond_undecoded`: a frame that is no envelope is refused without the store.
* `respond_cases`: all other frames are commands that are carried out, or are
  refused in the same way.
-/
namespace ChatServer.Action

open Delivery Protocol Store Time

/-- What a handler ends in. -/
abbrev Outcome := Except Refusal Reply

/-- Goes on with the answer of the store. A failure of the store ends the plan;
what was written before it stays. -/
def asking (op : Operation) (next : op.Answer → Plan Outcome) : Plan Outcome :=
  .ask op fun
    | .ok answer => next answer
    | .error e => .done (.error (.store e))

def checking {α : Type} (check : Except Refusal α) (next : α → Plan Outcome) : Plan Outcome :=
  match check with
  | .ok x => next x
  | .error r => .done (.error r)

def targetChannel (target : String) : Except Refusal Uuid :=
  match Uuid.parse? target with
  | some id => .ok id
  | none => .error (.noSuchTarget target)

/-- A text that is not blank. It is taken as it stands, with the blanks at its
ends. -/
def writtenText (purpose : TextPurpose) (text : String) : Except Refusal String :=
  if Text.allBlank text then .error (.blankText purpose) else .ok text

def listLimit : Nat := 200

/-- The time of a new message: the client's if it gave one, and else the
present. A time that the store could not order is refused here, without asking
it. -/
def messageTime (now : Instant) : Option Timestamp → Except Refusal Timestamp
  | none => .ok (.ofInstant now)
  | some t => if t.isStorable then .ok t else .error (.unorderableTime t.text)

/-- Goes on if the channel exists. -/
def existing (channelId : Uuid) (next : Plan Outcome) : Plan Outcome :=
  asking (.getChannel channelId) fun
    | some _ => next
    | none => .done (.error (.noSuchChannel channelId))

def createRoom (s : Session) (room : RoomRequest) : Plan Outcome :=
  checking (writtenText .room room.text) fun name =>
  asking (.createChannel .publicRoom name s.userId) fun channel =>
  .done (.ok (.toChannel s [s.userId] .createPublicRoom channel.id (.room (.ofChannel channel))))

def createMessage (s : Session) (now : Instant) (target : String) (m : MessageRequest) :
    Plan Outcome :=
  checking (targetChannel target) fun channelId =>
  checking (writtenText .message m.text) fun text =>
  checking (messageTime now m.createdAt) fun createdAt =>
  asking (.appendMessage ⟨channelId, s.id, s.userId, text, createdAt⟩) fun
    | none => .done (.error (.noSuchChannel channelId))
    | some message =>
      asking (.listMembers channelId) fun members =>
      .done (.ok (.toChannel s members .createMessage channelId (.message (.ofMessage message))))

/-- Lists the last messages of a channel. Who asks need not be a member of
it. -/
def listMessages (s : Session) (target : String) : Plan Outcome :=
  checking (targetChannel target) fun channelId =>
  existing channelId <|
  asking (.listMessages channelId listLimit none) fun messages =>
  .done (.ok (.toSession s .listMessages channelId (.messages ⟨messages.map .ofMessage⟩)))

/-- Tells a channel that the user of a session has come or gone. The members are
those behind the change, and the session is told whether or not its user is one
of them. -/
def announce (s : Session) (tag : ActionTag) (channelId : Uuid) : Plan Outcome :=
  asking (.listMembers channelId) fun members =>
  .done (.ok (.toChannel s members tag channelId (.member ⟨s.userId, s.email⟩)))

def joinRoom (s : Session) (target : String) : Plan Outcome :=
  checking (targetChannel target) fun channelId =>
  existing channelId <|
  asking (.addMember channelId s.userId) fun _ => announce s .joinPublicRoom channelId

def leaveRoom (s : Session) (target : String) : Plan Outcome :=
  checking (targetChannel target) fun channelId =>
  existing channelId <|
  asking (.removeMember channelId s.userId) fun _ => announce s .leavePublicRoom channelId

/-- Carries out a command. -/
def handle (s : Session) (now : Instant) : Command → Plan Outcome
  | .createPublicRoom room => createRoom s room
  | .createMessage target m => createMessage s now target m
  | .listMessages target => listMessages s target
  | .joinPublicRoom target => joinRoom s target
  | .leavePublicRoom target => leaveRoom s target
  | .unknown tag => .done (.error (.unknownTag tag))

/-- The reply that an outcome comes to. A refusal repeats the tag and the target
of the request as they were sent. -/
def conclude (s : Session) (inbound : Inbound) : Outcome → Reply
  | .ok reply => reply
  | .error r => .refuse s r (some inbound.tag) inbound.target

/-- Answers a text frame: it is read as an envelope, then its content as what
its tag asks for, and then it is carried out. Each of these may refuse it. -/
def respond (s : Session) (now : Instant) (text : String) : Plan Reply :=
  match Inbound.parse text with
  | .error e => .done (.refuse s (.undecoded e) none "")
  | .ok inbound =>
    match inbound.command with
    | .error e => .done (conclude s inbound (.error (.undecoded e)))
    | .ok command => (handle s now command).map (conclude s inbound)

theorem respond_undecoded {s : Session} {now : Instant} {text : String} {e : DecodeError}
    (h : Inbound.parse text = .error e) :
    respond s now text = .done (.refuse s (.undecoded e) none "") := by
  simp [respond, h]

theorem respond_decoded {s : Session} {now : Instant} {text : String} {inbound : Inbound}
    {command : Command}
    (h : Inbound.parse text = .ok inbound) (hcommand : inbound.command = .ok command) :
    respond s now text = (handle s now command).map (conclude s inbound) := by
  simp [respond, h, hcommand]

/-- A frame is refused without the store, or its command is carried out. -/
theorem respond_cases (s : Session) (now : Instant) (text : String) :
    (∃ r tag targetId, respond s now text = .done (.refuse s r tag targetId)) ∨
      ∃ inbound command, Inbound.parse text = .ok inbound ∧ inbound.command = .ok command ∧
        respond s now text = (handle s now command).map (conclude s inbound) := by
  cases hparse : Inbound.parse text with
  | error e => exact .inl ⟨_, _, _, respond_undecoded hparse⟩
  | ok inbound =>
    cases hcommand : inbound.command with
    | error e =>
      refine .inl ⟨.undecoded e, some inbound.tag, inbound.target, ?_⟩
      simp [respond, hparse, hcommand, conclude]
    | ok command => exact .inr ⟨inbound, command, rfl, hcommand, respond_decoded hparse hcommand⟩

end ChatServer.Action

