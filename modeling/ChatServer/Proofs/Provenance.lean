import ChatServer.Proofs.FanOut
import ChatServer.Proofs.Replies
import ChatServer.Proofs.Users

/-!
# Who and when

Who did something, under which identifier, and when a room was opened is for the
server to say. A client says what it wants and where, and the text and time of a
message. All else in its frame has no part in what happens: not the sender that
it names, nor the time that it proposes for a room, nor a member that nobody
asked for.

* `respond_eq_carryOut`: what is done for a frame is a function of the part of
  it that is taken (`Taken`).
* `respond_asks`: whatever the store answers, a session asks for things in its
  own name alone.
* `stamps_perform`, `stamps_run`: what is asked for in a session's name leaves
  rows with its stamp.
* `server_assigns`: frames that agree in what is taken get the same reply and
  leave the same store, and every reply, row and content is stamped by the
  server.
-/
namespace ChatServer.Store

open Time

/-! ## Rows -/

/-- Rows with this property have come behind those that were there, and nothing
else has changed. -/
def Adds {α : Type} (P : α → Prop) (xs ys : List α) : Prop := ∃ added, ys = xs ++ added ∧
    ∀ x ∈ added, P x

section
variable {α : Type} {P : α → Prop} {xs ys zs : List α}

theorem Adds.refl (xs : List α) : Adds P xs xs := ⟨[], (List.append_nil xs).symm, by simp⟩

theorem adds_one {x : α} (h : P x) : Adds P xs (xs ++ [x]) := ⟨[x], rfl, by simpa using h⟩

theorem Adds.trans (h : Adds P xs ys) (h' : Adds P ys zs) : Adds P xs zs := by
  obtain ⟨first, rfl, hfirst⟩ := h
  obtain ⟨second, rfl, hsecond⟩ := h'
  refine ⟨first ++ second, List.append_assoc .., ?_⟩
  intro x hx
  rcases List.mem_append.1 hx with hx | hx
  · exact hfirst x hx
  · exact hsecond x hx

theorem Adds.mem {x : α} (h : Adds P xs ys) (hx : x ∈ ys) : x ∈ xs ∨ P x := by
  obtain ⟨added, rfl, hadded⟩ := h
  exact (List.mem_append.1 hx).imp_right (hadded x)

end

/-- The row of a channel that a session opened: its user, an identifier that was
drawn, and the time of the draw. -/
structure ChannelRow.IsOf (s : Session) (d : Draw) (row : ChannelRow) : Prop where
  creator : row.creatorId = s.userId.text
  id : ∃ id ∈ d.id :: d.spare, row.id = some id.text
  createdAt : row.createdAt = d.now.stored

structure MessageRow.IsOf (s : Session) (d : Draw) (row : MessageRow) : Prop where
  sender : row.senderId = s.id.text
  user : row.userId = s.userId.text
  id : row.id = some d.id.text

structure MemberRow.IsOf (s : Session) (d : Draw) (row : MemberRow) : Prop where
  user : row.userId = s.userId.text
  joinedAt : row.joinedAt = d.now.stored

/-- Whatever has come to the tables is stamped as the session's, and nothing has
gone but memberships of its user. -/
structure Stamps (s : Session) (d : Draw) (t u : Tables) : Prop where
  users : u.users = t.users
  channels : Adds (ChannelRow.IsOf s d) t.channels u.channels
  messages : Adds (MessageRow.IsOf s d) t.messages u.messages
  begun : ∀ row ∈ u.members, row ∈ t.members ∨ row.IsOf s d
  ended : ∀ row ∈ t.members, row ∈ u.members ∨ row.userId = s.userId.text

section
variable {s : Session} {d : Draw} {t u v : Tables}

theorem Stamps.refl (t : Tables) : Stamps s d t t :=
  ⟨rfl, .refl _, .refl _, fun _ h => .inl h, fun _ h => .inl h⟩

theorem Stamps.trans (h : Stamps s d t u) (h' : Stamps s d u v) : Stamps s d t v where
  users := h'.users.trans h.users
  channels := h.channels.trans h'.channels
  messages := h.messages.trans h'.messages
  begun row hrow := by
    rcases h'.begun row hrow with hrow | hrow
    · exact h.begun row hrow
    · exact .inr hrow
  ended row hrow := by
    rcases h.ended row hrow with hrow | hrow
    · exact h'.ended row hrow
    · exact .inr hrow

theorem stamps_insertMember {channelId userId : String} (huser : userId = s.userId.text)
    (h : t.insertMember ⟨channelId, userId, d.now.stored⟩ = .ok u) : Stamps s d t u := by
  obtain ⟨-, -, -, rfl⟩ := Tables.insertMember_eq_ok.1 h
  refine ⟨rfl, .refl _, .refl _, ?_, fun row hrow => .inl (List.mem_append_left _ hrow)⟩
  intro row hrow
  rcases List.mem_append.1 hrow with hrow | hrow
  · exact .inl hrow
  · rw [List.mem_singleton.1 hrow]
    exact .inr ⟨huser, rfl⟩

theorem stamps_eraseMember (t : Tables) (channelId : String) :
    Stamps s d t (t.eraseMember channelId s.userId.text) := by
  refine ⟨rfl, .refl _, .refl _, fun row hrow => .inl (List.mem_of_mem_filter hrow), ?_⟩
  intro row hrow
  by_cases huser : row.userId = s.userId.text
  · exact .inr huser
  · exact .inl (List.mem_filter.2 ⟨hrow, by simp [huser]⟩)

/-! ## Operations -/

/-- The operation is in the name of the session. Questions are in nobody's name,
and a session registers no one. -/
def Operation.IsOf (s : Session) : Operation → Prop
  | createUser .. => False
  | createChannel _ _ creatorId => creatorId = s.userId
  | addMember _ userId => userId = s.userId
  | removeMember _ userId => userId = s.userId
  | appendMessage new => new.senderId = s.id ∧ new.userId = s.userId
  | _ => True

theorem stamps_apply {op : Operation} {answer : op.Answer} (hop : op.IsOf s)
    (h : op.apply d t = .ok (answer, u)) : Stamps s d t u := by
  cases op with
  | createUser email password => exact hop.elim
  | createChannel kind name creatorId =>
    obtain ⟨id, v, hid, rfl, hchannel, hmember⟩ := Tables.createChannel_eq_ok h
    obtain ⟨-, -, rfl⟩ := Tables.insertChannel_eq_ok.1 hchannel
    have hcreator : creatorId = s.userId := hop
    have hrow : ChannelRow.IsOf s d (.ofChannel ⟨id, kind, name, creatorId, d.now, none⟩) :=
      ⟨congrArg Uuid.text hcreator, ⟨id, List.mem_of_find?_eq_some hid, rfl⟩, rfl⟩
    refine Stamps.trans ?_ (stamps_insertMember (congrArg Uuid.text hcreator) hmember)
    exact ⟨rfl, adds_one hrow, .refl _, fun _ hrow => .inl hrow, fun _ hrow => .inl hrow⟩
  | addMember channelId userId =>
    obtain ⟨-, -, rfl⟩ | ⟨-, -, hmember⟩ := Tables.addMember_eq_ok h
    · exact .refl t
    · exact stamps_insertMember (congrArg Uuid.text hop) hmember
  | removeMember channelId userId =>
    have huser : userId = s.userId := hop
    subst huser
    cases h
    exact stamps_eraseMember t channelId.text
  | appendMessage new =>
    obtain ⟨-, -, rfl⟩ | ⟨-, -, hmessage⟩ := Tables.appendMessage_eq_ok h
    · exact .refl t
    · obtain ⟨hsender, huser⟩ := hop
      obtain ⟨-, -, -, rfl⟩ := Tables.insertMessage_eq_ok.1 hmessage
      have hrow : MessageRow.IsOf s d (.ofMessage (new.toMessage d.id)) :=
        ⟨congrArg Uuid.text hsender, congrArg Uuid.text huser, rfl⟩
      exact ⟨rfl, .refl _, adds_one hrow, fun _ hrow => .inl hrow, fun _ hrow => .inl hrow⟩
  | getUser id => exact (Operation.asking_eq_ok.1 h).2 ▸ .refl t
  | getCredentials email => exact (Operation.asking_eq_ok.1 h).2 ▸ .refl t
  | getChannel id => exact (Operation.asking_eq_ok.1 h).2 ▸ .refl t
  | listChannels => exact (Operation.asking_eq_ok.1 h).2 ▸ .refl t
  | listMembers channelId => exact (Operation.asking_eq_ok.1 h).2 ▸ .refl t
  | listMessages channelId limit before => exact (Operation.asking_eq_ok.1 h).2 ▸ .refl t

theorem stamps_perform {op : Operation} (hop : op.IsOf s) (db : Database) :
    Stamps s d db.tables (db.perform op d).2.tables := by
  cases h : (db.perform op d).1 with
  | error e =>
    rw [Database.perform_error h]
    exact .refl _
  | ok answer =>
    obtain ⟨-, t, happly, hafter⟩ := Database.perform_eq_ok h
    rw [hafter]
    exact stamps_apply hop happly

/-- Whatever the store answers, the plan asks only for what has this
property. -/
def Plan.Asks {α : Type} (A : Operation → Prop) : Plan α → Prop
  | .done _ => True
  | .ask op next => A op ∧ ∀ answer, (next answer).Asks A

theorem Plan.Asks.map {α β : Type} {A : Operation → Prop} {p : Plan α} (h : p.Asks A) (f : α → β) :
    (p.map f).Asks A := by
  induction p with
  | done x => trivial
  | ask op next ih => exact ⟨h.1, fun answer => ih answer (h.2 answer)⟩

/-- A plan that asks in the session's name leaves the session's stamp. -/
theorem stamps_run {α : Type} {p : Plan α} (h : p.Asks (Operation.IsOf s)) (db : Database) :
    Stamps s d db.tables (p.run d db).2.tables := by
  induction p generalizing db with
  | done x => exact .refl _
  | ask op next ih => exact (stamps_perform h.1 db).trans (ih _ (h.2 _) _)

end

end ChatServer.Store

namespace ChatServer.Protocol

open Time

/-! ## What is taken from a frame -/

def Command.text? : Command → Option String
  | createPublicRoom room => some room.text
  | createMessage _ m => some m.text
  | _ => none

/-- The time that a message is to have, where its author says so. -/
def Command.createdAt? : Command → Option Timestamp
  | createMessage _ m => m.createdAt
  | _ => none

structure Taken where
  tag : String
  target : String
  text : Option String
  createdAt : Option Timestamp
deriving DecidableEq

/-- What is taken from an envelope with this command. -/
def Inbound.taken (e : Inbound) (c : Command) : Taken := ⟨e.tag, e.target, c.text?, c.createdAt?⟩

/-- What is taken from a text frame, where it is a command. -/
def taken? (text : String) : Option Taken := do
  let e ← (Inbound.parse text).toOption
  let c ← e.command.toOption
  return e.taken c

/-- The command that is carried out. -/
def Taken.command (q : Taken) : Command :=
  match ActionTag.ofName? q.tag with
  | some .createPublicRoom => .createPublicRoom ⟨q.text.getD "", none⟩
  | some .createMessage => .createMessage q.target ⟨q.text.getD "", q.createdAt⟩
  | some .listMessages => .listMessages q.target
  | some .joinPublicRoom => .joinPublicRoom q.target
  | some .leavePublicRoom => .leavePublicRoom q.target
  | some .error => .unknown q.tag
  | none => .unknown q.tag

theorem taken?_eq_some {text : String} {q : Taken} (h : taken? text = some q) :
    ∃ e c, Inbound.parse text = .ok e ∧ e.command = .ok c ∧ e.taken c = q := by
  unfold taken? at h
  cases hparse : Inbound.parse text with
  | error f => simp [hparse, Except.toOption] at h
  | ok e =>
    cases hcommand : e.command with
    | error f => simp [hparse, hcommand, Except.toOption] at h
    | ok c =>
      refine ⟨e, c, rfl, hcommand, ?_⟩
      simpa [hparse, hcommand, Except.toOption] using h

end ChatServer.Protocol

namespace ChatServer.Action

open Delivery Protocol Store Time

def carryOut (s : Session) (now : Instant) (q : Taken) : Plan Reply :=
  (handle s now q.command).map (conclude s ⟨q.tag, some q.target, none, .null⟩)

section
variable {s : Session} {now : Instant} {e : Inbound}

/-- The time that is proposed for a room has no part in what is done. -/
theorem handle_taken {c : Command} (h : e.command = .ok c) :
    handle s now (e.taken c).command = handle s now c := by
  unfold Inbound.command at h
  unfold Taken.command
  have htag : (e.taken c).tag = e.tag := rfl
  rw [htag]
  cases hname : ActionTag.ofName? e.tag with
  | none =>
    rw [hname] at h
    cases h
    rfl
  | some tag =>
    rw [hname] at h
    cases tag with
    | createPublicRoom =>
      obtain ⟨room, -, rfl⟩ := map_eq_ok.1 h
      rfl
    | createMessage =>
      obtain ⟨m, -, rfl⟩ := map_eq_ok.1 h
      rfl
    | listMessages => cases h; rfl
    | joinPublicRoom => cases h; rfl
    | leavePublicRoom => cases h; rfl
    | error => cases h; rfl

theorem respond_eq_carryOut {text : String} {q : Taken} (h : taken? text = some q) :
    respond s now text = carryOut s now q := by
  obtain ⟨e, c, hparse, hcommand, rfl⟩ := taken?_eq_some h
  have hconclude : conclude s e =
      conclude s ⟨(e.taken c).tag, some (e.taken c).target, none, .null⟩ := by
    funext outcome
    cases outcome <;> rfl
  rw [carryOut, handle_taken hcommand, ← hconclude]
  exact respond_decoded hparse hcommand

end

/-! ## What a session asks for -/

section
variable {s : Session}

abbrev AsksOwn (s : Session) (p : Plan Outcome) : Prop := p.Asks (Operation.IsOf s)

theorem asksOwn_checking {α : Type} {check : Except Refusal α} {next : α → Plan Outcome}
    (h : ∀ x, AsksOwn s (next x)) : AsksOwn s (checking check next) := by
  cases check with
  | error r => trivial
  | ok x => exact h x

theorem asksOwn_asking {op : Operation} {next : op.Answer → Plan Outcome} (hop : op.IsOf s)
    (h : ∀ answer, AsksOwn s (next answer)) : AsksOwn s (asking op next) := by
  refine ⟨hop, ?_⟩
  intro answer
  cases answer with
  | error e => trivial
  | ok answer => exact h answer

theorem asksOwn_existing {channelId : Uuid} {next : Plan Outcome} (h : AsksOwn s next) :
    AsksOwn s (existing channelId next) := by
  refine asksOwn_asking trivial fun found => ?_
  cases found with
  | none => trivial
  | some c => exact h

theorem asksOwn_announce (tag : ActionTag) (channelId : Uuid) :
    AsksOwn s (announce s tag channelId) :=
  asksOwn_asking trivial fun _ => trivial

theorem handle_asksOwn (now : Instant) (command : Command) : AsksOwn s (handle s now command) := by
  cases command with
  | unknown tag => trivial
  | createPublicRoom room =>
    exact asksOwn_checking fun name => asksOwn_asking rfl fun channel => trivial
  | createMessage target m =>
    refine asksOwn_checking fun channelId => asksOwn_checking fun text =>
      asksOwn_checking fun createdAt => ?_
    refine asksOwn_asking ⟨rfl, rfl⟩ fun posted => ?_
    cases posted with
    | none => trivial
    | some message => exact asksOwn_asking trivial fun members => trivial
  | listMessages target =>
    exact asksOwn_checking fun channelId =>
      asksOwn_existing (asksOwn_asking trivial fun messages => trivial)
  | joinPublicRoom target =>
    refine asksOwn_checking fun channelId => asksOwn_existing ?_
    exact asksOwn_asking rfl fun added => asksOwn_announce _ _
  | leavePublicRoom target =>
    refine asksOwn_checking fun channelId => asksOwn_existing ?_
    exact asksOwn_asking rfl fun removed => asksOwn_announce _ _

theorem respond_asks (s : Session) (now : Instant) (text : String) :
    (respond s now text).Asks (Operation.IsOf s) := by
  obtain ⟨r, tag, targetId, hrefused⟩ | ⟨inbound, command, -, -, hhandled⟩ :=
    respond_cases s now text
  · rw [hrefused]
    trivial
  · rw [hhandled]
    exact (handle_asksOwn now command).map _

end

/-! ## Contents -/

/-- What a reply with this tag and content says of who acted, and of what the
server made. A list shows what the tables hold, and an error has the words of a
refusal. -/
def Tells (s : Session) (d : Draw) (t : Tables) : ActionTag → Content → Prop
  | .createPublicRoom, .room r => r.creatorId = s.userId ∧ r.id ∈ d.id :: d.spare ∧
      r.created = d.now
  | .createMessage, .message m => m.userId = s.userId ∧ m.id = d.id
  | .joinPublicRoom, .member m => m.userId = s.userId ∧ m.email = s.email
  | .leavePublicRoom, .member m => m.userId = s.userId ∧ m.email = s.email
  | .listMessages, .messages ms => ∃ channelId held, t.listMessages channelId listLimit none =
      .ok held ∧
    ms.messages = held.map .ofMessage
  | .error, .error e => ∃ r : Refusal, e.code = r.code ∧ e.message = r.message
  | _, _ => False

/-- Whatever reply a plan ends in says no more than that. -/
def EndsTelling (s : Session) (d : Draw) (t : Tables) (p : Plan Outcome) (db : Database) : Prop :=
  ∀ reply, (p.run d db).1 = .ok reply → Tells s d t reply.envelope.tag reply.envelope.content

section
variable {s : Session} {d : Draw} {t : Tables} {db : Database}

theorem tells_refuse (r : Refusal) (tag : Option String) (targetId : String) :
    Tells s d t (Reply.refuse s r tag targetId).envelope.tag
    (Reply.refuse s r tag targetId).envelope.content :=
  ⟨r, rfl, rfl⟩

theorem telling_refusal (r : Refusal) : EndsTelling s d t (.done (.error r)) db := by
  intro reply h
  cases h

theorem telling_reply {reply : Reply} (h : Tells s d t reply.envelope.tag reply.envelope.content) :
    EndsTelling s d t (.done (.ok reply)) db := by
  intro reply' h'
  cases h'
  exact h

theorem telling_checking {α : Type} {check : Except Refusal α} {next : α → Plan Outcome}
    (h : ∀ x, EndsTelling s d t (next x) db) : EndsTelling s d t (checking check next) db := by
  cases check with
  | error r => exact telling_refusal r
  | ok x => exact h x

theorem telling_asking {op : Operation} {next : op.Answer → Plan Outcome}
    (h : ∀ answer, (db.perform op d).1 = .ok answer →
      EndsTelling s d t (next answer) (db.perform op d).2) :
    EndsTelling s d t (asking op next) db := by
  unfold EndsTelling asking
  rw [Plan.run]
  cases ha : (db.perform op d).1 with
  | error e => exact telling_refusal (.store e)
  | ok answer => exact h answer ha

theorem telling_existing {channelId : Uuid} {next : Plan Outcome} (h : EndsTelling s d t next db) :
    EndsTelling s d t (existing channelId next) db := by
  have hread : db.perform (.getChannel channelId) d =
    (db.read fun t => t.getChannel channelId, db) :=
    Database.perform_reading (fun _ => rfl) db
  refine telling_asking fun found _ => ?_
  rw [hread]
  cases found with
  | none => exact telling_refusal _
  | some c => exact h

theorem handle_telling (now : Instant) (command : Command) :
    EndsTelling s d db.tables (handle s now command) db := by
  cases command with
  | unknown tag => exact telling_refusal _
  | createPublicRoom room =>
    refine telling_checking fun name => telling_asking fun channel hchannel => telling_reply ?_
    obtain ⟨-, t, happly, -⟩ := Database.perform_eq_ok hchannel
    obtain ⟨id, v, hid, rfl, -, -⟩ := Tables.createChannel_eq_ok happly
    exact ⟨rfl, List.mem_of_find?_eq_some hid, rfl⟩
  | createMessage target m =>
    refine telling_checking fun channelId => telling_checking fun text =>
      telling_checking fun createdAt => ?_
    refine telling_asking fun posted hposted => ?_
    cases posted with
    | none => exact telling_refusal _
    | some message =>
      obtain ⟨-, t, happly, -⟩ := Database.perform_eq_ok hposted
      obtain ⟨-, hnone, -⟩ | ⟨-, hmessage, -⟩ := Tables.appendMessage_eq_ok happly
      · cases hnone
      · obtain rfl := Option.some.inj hmessage
        exact telling_asking fun members _ => telling_reply ⟨rfl, rfl⟩
  | listMessages target =>
    refine telling_checking fun channelId => telling_existing (telling_asking fun held hheld => ?_)
    obtain ⟨-, t, happly, -⟩ := Database.perform_eq_ok hheld
    obtain ⟨hrows, rfl⟩ := Operation.asking_eq_ok.1 happly
    exact telling_reply ⟨channelId, held, hrows, rfl⟩
  | joinPublicRoom target =>
    refine telling_checking fun channelId => telling_existing (telling_asking fun added _ => ?_)
    exact telling_asking fun members _ => telling_reply ⟨rfl, rfl⟩
  | leavePublicRoom target =>
    refine telling_checking fun channelId => telling_existing (telling_asking fun removed _ => ?_)
    exact telling_asking fun members _ => telling_reply ⟨rfl, rfl⟩

theorem respond_tells (now : Instant) (text : String) :
    Tells s d db.tables ((respond s now text).run d db).1.envelope.tag
      ((respond s now text).run d db).1.envelope.content := by
  obtain ⟨r, tag, targetId, hrefused⟩ | ⟨inbound, command, -, -, hhandled⟩ :=
    respond_cases s now text
  · rw [hrefused]
    exact tells_refuse _ _ _
  · rw [hhandled, Plan.run_map]
    cases ho : ((handle s now command).run d db).1 with
    | error r => exact tells_refuse _ _ _
    | ok reply => exact handle_telling now command reply ho

end

/-! ## Stamps -/

/-- A reply and the tables behind it have the stamp of the session: the reply
names it, and what it tells and what has come to the tables is of its user, of
an identifier that was drawn, and, for a room, of the time of the draw. -/
structure Stamped (s : Session) (d : Draw) (before : Database) (answered : Reply × Database) :
    Prop where
  sender : answered.1.envelope.senderId = s.id
  content : Tells s d before.tables answered.1.envelope.tag answered.1.envelope.content
  rows : Stamps s d before.tables answered.2.tables

theorem respond_stamped (s : Session) (now : Instant) (d : Draw) (db : Database) (text : String) :
    Stamped s d db ((respond s now text).run d db) :=
  ⟨(respond_returns (Plan.mayEnd_run _ d db)).sender, respond_tells now text,
    stamps_run (respond_asks s now text) db⟩

/-! ## Authors -/

structure Sent where
  session : Session
  now : Instant
  draw : Draw
  text : String

/-- The store behind a frame that is answered. -/
def Sent.after (f : Sent) (db : Database) : Database :=
    ((respond f.session f.now f.text).run f.draw db).2

def afterAll (db : Database) (frames : List Sent) : Database :=
    frames.foldl (fun db f => f.after db) db

/-- A row that was there before, or that one of the frames brought. -/
def Authored {α : Type} (brought : Sent → α → Prop) (before : List α) (frames : List Sent)
    (row : α) : Prop :=
  row ∈ before ∨ ∃ f ∈ frames, brought f row

theorem Authored.cons {α : Type} {brought : Sent → α → Prop} {before after : List α}
    {frames : List Sent} {f : Sent} {row : α} (h : Authored brought after frames row)
    (hstep : ∀ row ∈ after, row ∈ before ∨ brought f row) :
    Authored brought before (f :: frames) row := by
  rcases h with hrow | ⟨g, hg, hrow⟩
  · rcases hstep row hrow with hrow | hrow
    · exact .inl hrow
    · exact .inr ⟨f, List.mem_cons_self, hrow⟩
  · exact .inr ⟨g, List.mem_cons_of_mem f hg, hrow⟩

/-- All that frames have brought is by the sessions that sent them. -/
structure AllAuthored (t u : Tables) (frames : List Sent) : Prop where
  channels : ∀ row ∈ u.channels,
    Authored (fun f => ChannelRow.IsOf f.session f.draw) t.channels frames row
  members : ∀ row ∈ u.members,
    Authored (fun f => MemberRow.IsOf f.session f.draw) t.members frames row
  messages : ∀ row ∈ u.messages,
    Authored (fun f => MessageRow.IsOf f.session f.draw) t.messages frames row

/-- Whatever is sent, nobody speaks for another. -/
theorem afterAll_authored (db : Database) (frames : List Sent) :
    AllAuthored db.tables (afterAll db frames).tables frames := by
  induction frames generalizing db with
  | nil => exact ⟨fun _ h => .inl h, fun _ h => .inl h, fun _ h => .inl h⟩
  | cons f frames ih =>
    have hrows := (respond_stamped f.session f.now f.draw db f.text).rows
    have hrest := ih (f.after db)
    exact {
      channels := fun row hrow => (hrest.channels row hrow).cons fun _ h => hrows.channels.mem h
      members := fun row hrow => (hrest.members row hrow).cons hrows.begun
      messages := fun row hrow => (hrest.messages row hrow).cons fun _ h => hrows.messages.mem h }

/-! ## Who and when -/

/-- **Who and when is the server's word.** Frames that are commands of the same
tag, target and text, and of the same time for a message, get the same reply and
leave the same store, and reach the same sessions, whatever else they say. What
every frame comes to is stamped by the server; and whatever frames come, each
row is by a session that sent one, so that what is listed later names its
authors, too. -/
theorem server_assigns (sv : Server) (s : Session) (now : Instant) (d : Draw) :
    (∀ text text' q, taken? text = some q → taken? text' = some q →
      (respond s now text).run d sv.database = (respond s now text').run d sv.database ∧
      sv.handleText s d text = sv.handleText s d text') ∧
    (∀ text, Stamped s d sv.database ((respond s now text).run d sv.database)) ∧
    ∀ frames, AllAuthored sv.database.tables (afterAll sv.database frames).tables frames := by
  refine ⟨?_, respond_stamped s now d sv.database, afterAll_authored sv.database⟩
  intro text text' q h h'
  have hplan (now : Instant) : respond s now text = respond s now text' := by
    rw [respond_eq_carryOut h, respond_eq_carryOut h']
  rw [Server.handleText, Server.handleText, hplan d.now]
  exact ⟨by rw [hplan now], rfl⟩

def samplePlain : String :=
  "\x7b\"action_tag\":\"CREATE_PUBLIC_ROOM\",\"content\":\x7b\"text\":\"hall\"\x7d\x7d"

/-- The same request, in another's name, of another time and with one more
member. -/
def sampleForged : String :=
  "\x7b\"action_tag\":\"CREATE_PUBLIC_ROOM\",\"sender_id\":\"8\",\"content\":" ++
  "\x7b\"creator_id\":7,\"created\":\"2001-01-01T00:00:00Z\",\"text\":\"hall\"\x7d\x7d"

theorem server_assigns_sample :
    let sv : Server := ⟨Database.empty.run sampleSteps, (Registry.empty 8).run sampleTraffic⟩
    (respond sampleSession sampleNoon samplePlain).run (sampleDraw 5) sv.database =
      (respond sampleSession sampleNoon sampleForged).run (sampleDraw 5) sv.database ∧
    sv.handleText sampleSession (sampleDraw 5) samplePlain =
      sv.handleText sampleSession (sampleDraw 5) sampleForged := by
  intro sv
  have hplain : taken? samplePlain = some ⟨"CREATE_PUBLIC_ROOM", "", some "hall", none⟩ := by
    decide +kernel
  have hforged : taken? sampleForged = some ⟨"CREATE_PUBLIC_ROOM", "", some "hall", none⟩ := by
    decide +kernel
  exact (server_assigns sv sampleSession sampleNoon (sampleDraw 5)).1 samplePlain sampleForged _
    hplain hforged

end ChatServer.Action

