import ChatServer.Proofs.Among
import ChatServer.Proofs.Events
import ChatServer.Proofs.FanOut
import ChatServer.Proofs.Frames
import ChatServer.Proofs.JsonRecords
import ChatServer.Proofs.Timeline
import ChatServer.Web.Service

/-!
# Messages come back as they were written

A message goes a long way: its text and its time are read from the content of a
frame, kept in columns of a row, read back from there, and written into frames
and bodies of two different records. Each client that reads one of these as JSON
finds the text and the time as the author spelled them.

The time is the harder part, since it is kept twice: the columns hold the
instant, which orders messages, and the text, which is shown. What other
requests do in between does not matter, and neither does a store that is closed
and opened again.

* `spells_of_ofValue`: where the content of a frame has the text and the time.
* `Keeps.run`, `Keeps.listed`: a message that was stored stays, and lists show
  it unchanged.
* `posted_among`, `listed_among`, `history_among`: what a post, a list and a
  request for a page come to.
* `message_echoes`: the whole way.
-/
namespace ChatServer.Protocol

open Json Time

/-! ## Contents of posts -/

/-- A content has this text and this time, by name or by place. -/
inductive Spells (text time : String) : Value → Prop
  | members {members : List (String × Value)} (htext : ("text", .string text) ∈ members)
    (htime : ("created_at", .string time) ∈ members) : Spells text time (.object members)
  | items : Spells text time (.array [.string text, .string time])

theorem optional_eq_some {α : Type} {c : Codec α} {v : Value} {x : α}
    (h : c.optional.ofValue v = .ok (some x)) : c.ofValue v = .ok x := by
  cases v with
  | null => cases h
  | bool | number | string | array | object =>
    obtain ⟨y, hy, he⟩ := Store.bind_eq_ok.1 h
    cases he
    exact hy

theorem timestamp_eq_ok {v : Value} {t : Timestamp} (h : Codec.timestamp.ofValue v = .ok t) :
    v = .string t.text := by
  obtain ⟨s, rfl, hs⟩ := ofString_eq_ok h
  cases hparse : Timestamp.parse s with
  | error f => rw [hparse] at hs; cases hs
  | ok t' =>
    rw [hparse] at hs
    cases hs
    rw [Timestamp.text_of_parse hparse]

/-- The text and the time of a request to post are spelled in its content. -/
theorem spells_of_ofValue {v : Value} {text : String} {t : Timestamp}
    (h : MessageRequest.codec.ofValue v = .ok ⟨text, some t⟩) : Spells text t.text v := by
  obtain ⟨⟨x, y, u⟩, hrecord, he⟩ := Store.bind_eq_ok.1 h
  obtain ⟨rfl, rfl⟩ : x = text ∧ y = some t := by simpa [pure, Except.pure] using he
  cases v with
  | object members =>
    obtain ⟨⟨a, b, c⟩, hslots, hfinish⟩ := Store.bind_eq_ok.1 hrecord
    obtain ⟨htext, htime, -⟩ :=
      Fields.filled_foldlM (fun _ hm => hm) Fields.filled_emptySlots hslots
    cases a with
    | none => cases hfinish
    | some x' =>
      cases b with
      | none => cases hfinish
      | some y' =>
        cases hfinish
        obtain ⟨v, hv, hread⟩ := htext _ rfl
        obtain ⟨w, hw, hread'⟩ := htime _ rfl
        obtain ⟨s, rfl, hs⟩ := ofString_eq_ok hread
        cases hs
        rw [timestamp_eq_ok (optional_eq_some hread')] at hw
        exact .members hv hw
  | array items =>
    -- a field that may be left out is none of two, so both stand and nothing else does
    match items, hrecord with
    | [], hrecord => cases hrecord
    | [v], hrecord =>
      obtain ⟨x', -, hrest⟩ := Store.bind_eq_ok.1 hrecord
      obtain ⟨tail, htail, he⟩ := Store.bind_eq_ok.1 hrest
      cases htail
      cases he
    | [v, w], hrecord =>
      obtain ⟨x', hread, hrest⟩ := Store.bind_eq_ok.1 hrecord
      obtain ⟨tail, htail, he⟩ := Store.bind_eq_ok.1 hrest
      obtain ⟨y', hread', hnil⟩ := Store.bind_eq_ok.1 htail
      cases hnil
      cases he
      obtain ⟨s, rfl, hs⟩ := ofString_eq_ok hread
      cases hs
      rw [timestamp_eq_ok (optional_eq_some hread')]
      exact .items
    | v :: w :: z :: more, hrecord =>
      obtain ⟨x', -, hrest⟩ := Store.bind_eq_ok.1 hrecord
      obtain ⟨tail, htail, -⟩ := Store.bind_eq_ok.1 hrest
      obtain ⟨y', -, hnil⟩ := Store.bind_eq_ok.1 htail
      cases hnil
  | null | bool | number | string => cases hrecord

/-! ## Messages in JSON -/

def member? (name : String) : Value → Option Value
  | .object members => members.lookup name
  | _ => none

/-- A JSON object shows this message: who wrote it, its text, and its time as
the author spelled it. -/
structure Shows (id userId : Uuid) (text time : String) (item : Value) : Prop where
  id : member? "id" item = some (.string id.text)
  userId : member? "user_id" item = some (.string userId.text)
  text : member? "text" item = some (.string text)
  createdAt : member? "created_at" item = some (.string time)
  updatedAt : member? "updated_at" item = some .null

/-- Among these, the objects with the identifier of a message show that
message. -/
def ShownIn (id userId : Uuid) (text time : String) (items : List Value) : Prop :=
  ∀ item ∈ items, member? "id" item = some (.string id.text) → Shows id userId text time item

/-- What a frame has as its content. -/
def contentOf? (frame : String) : Option Value :=
  match Codec.verbatim.parse frame with
  | .ok v => member? "content" v
  | .error _ => none

theorem contentOf?_text (e : Envelope) : contentOf? e.text = some e.content.encode := by
  rw [contentOf?, e.parse_text]
  rfl

theorem shows_content {m : Message} (h : m.updatedAt = none) :
    Shows m.id m.userId m.text m.createdAt.text (MessageContent.codec.encode (.ofMessage m)) := by
  refine ⟨rfl, rfl, rfl, rfl, ?_⟩
  have hmember : member? "updated_at" (MessageContent.codec.encode (.ofMessage m)) =
      some (Codec.instant.optional.encode m.updatedAt) := rfl
  rw [hmember, h]
  rfl

theorem shows_message {m : Message} (h : m.updatedAt = none) :
    Shows m.id m.userId m.text m.createdAt.text (Message.codec.encode m) := by
  refine ⟨rfl, rfl, rfl, rfl, ?_⟩
  have hmember : member? "updated_at" (Message.codec.encode m) =
      some (Codec.instant.optional.encode m.updatedAt) := rfl
  rw [hmember, h]
  rfl

/-- A list of messages that is written is read as the messages. -/
theorem parse_messages (ms : List Message) : Codec.verbatim.parse (Message.codec.list.write ms) =
    .ok (.array (ms.map Message.codec.encode)) := by
  refine Json.parse_text (.array fun v hv => ?_ : Fits (126 + 2) _)
  obtain ⟨m, -, rfl⟩ := List.mem_map.1 hv
  exact fits_message m

end ChatServer.Protocol

namespace ChatServer.Store

open Protocol

/-! ## Messages in the store -/

/-- The store holds this message among others. -/
def Keeps (db : Database) (m : Message) : Prop := ∃ k, db.Holds k ∧ m ∈ k.messages

/-- No message in this list can be taken for another: one with the identifier of
`m` is `m`. -/
def AgreesOn (m : Message) (ms : List Message) : Prop :=
  ∀ m' ∈ ms, m'.updatedAt = none ∧ (m'.id = m.id → m' = m)

section
variable {db : Database} {m : Message}

theorem Keeps.run (h : Keeps db m) (steps : List Step) : Keeps (db.run steps) m := by
  obtain ⟨k, hk, hm⟩ := h
  refine ⟨_, hk.run steps, ?_⟩
  rw [Ledger.messages_foldl]
  exact List.mem_append_left _ hm

theorem Keeps.perform (h : Keeps db m) (op : Operation) (d : Draw) : Keeps (db.perform op d).2 m :=
  h.run [.perform op d]

/-- A message that was stored is shown as it was stored. -/
theorem Keeps.listed (h : Keeps db m) {channelId : Uuid} {limit : Nat} {before : Option Uuid}
    {d : Draw}
    {ms : List Message} (hms : (db.perform (.listMessages channelId limit before) d).1 = .ok ms) :
    AgreesOn m ms := by
  obtain ⟨k, hk, hm⟩ := h
  obtain rfl := Except.ok.inj ((answer_listMessages hk channelId limit before d).symm.trans hms)
  intro m' hm'
  have hin : m' ∈ k.messages := Ledger.mem_messages_of_mem_log
    (Ledger.mem_timeline.1 (Ledger.mem_of_mem_earlier (List.mem_of_mem_drop hm')))
  exact ⟨(hk.sound.messages m' hin).2, fun hid => List.inj_on_of_nodup_map hk.sound.ids_nodup hin hm hid⟩

/-- A message that is appended is the one that was asked for, and is kept. -/
theorem keeps_of_appended {k : Ledger} (hk : db.Holds k) {new : NewMessage} {d : Draw}
    (h : (db.perform (.appendMessage new) d).1 = .ok (some m)) :
    m = new.toMessage d.id ∧ Keeps (db.perform (.appendMessage new) d).2 m := by
  obtain ⟨-, t, ht, -⟩ := Database.perform_eq_ok h
  refine ⟨?_, _, hk.perform (.appendMessage new) d, ?_⟩
  · rcases Tables.appendMessage_eq_ok ht with ⟨-, hnone, -⟩ | ⟨-, hsome, -⟩
    · cases hnone
    · exact Option.some.inj hsome
  · rw [h]
    exact List.mem_append_right _ (List.mem_singleton.2 rfl)

end

theorem AgreesOn.shownIn {m : Message} {ms : List Message} (h : AgreesOn m ms)
    {encode : Message → Json.Value}
    (hencode : ∀ m' : Message, m'.updatedAt = none →
      Shows m'.id m'.userId m'.text m'.createdAt.text (encode m')) :
    ShownIn m.id m.userId m.text m.createdAt.text (ms.map encode) := by
  intro item hitem hid
  obtain ⟨m', hm', rfl⟩ := List.mem_map.1 hitem
  obtain ⟨hnone, hsame⟩ := h m' hm'
  have hshows := hencode m' hnone
  have hids : m'.id = m.id := Uuid.text_injective (by simpa using hshows.id.symm.trans hid)
  obtain rfl := hsame hids
  exact hshows

end ChatServer.Store

namespace ChatServer.Action

open Delivery Protocol Store Time

/-! ## Requests over a socket -/

section
variable {s : Session} {db db' : Database} {reply : Reply}

theorem among_checking {α : Type} {check : Except Refusal α} {next : α → Plan Outcome}
    (h : (checking check next).Among db (.ok reply) db') :
    ∃ x, check = .ok x ∧ (next x).Among db (.ok reply) db' := by
  cases check with
  | error r => cases h
  | ok x => exact ⟨x, rfl, h⟩

/-- Where a plan that begins with a question ends in a reply, the question was
answered. -/
theorem among_asking {op : Operation} {next : op.Answer → Plan Outcome}
    (h : (asking op next).Among db (.ok reply) db') :
    ∃ steps d answer, ((db.run steps).perform op d).1 = .ok answer ∧
      (next answer).Among ((db.run steps).perform op d).2 (.ok reply) db' := by
  cases h with
  | ask steps d h =>
    cases ha : ((db.run steps).perform op d).1 with
    | error e => rw [ha] at h; cases h
    | ok answer => rw [ha] at h; exact ⟨steps, d, answer, ha, h⟩

theorem among_existing {channelId : Uuid} {next : Plan Outcome}
    (h : (existing channelId next).Among db (.ok reply) db') :
    ∃ steps d, next.Among ((db.run steps).perform (.getChannel channelId) d).2 (.ok reply) db' := by
  obtain ⟨steps, d, found, -, h⟩ := among_asking h
  cases found with
  | none => cases h
  | some c => exact ⟨steps, d, h⟩

/-- A reply that is no error is what the handler of the command ended in. -/
theorem among_respond {now : Instant} {text : String} (h : (respond s now text).Among db reply db')
    (htag : reply.envelope.tag ≠ .error) : ∃ e command, Inbound.parse text = .ok e ∧
      e.command = .ok command ∧ (handle s now command).Among db (.ok reply) db' := by
  obtain ⟨r, tag, targetId, hrefused⟩ | ⟨e, command, hparse, hcommand, hhandled⟩ :=
    respond_cases s now text
  · rw [hrefused] at h
    cases h
    exact absurd rfl htag
  · rw [hhandled] at h
    obtain ⟨outcome, hhandle, rfl⟩ := h.of_map
    cases outcome with
    | error r => exact absurd rfl htag
    | ok reply => exact ⟨e, command, hparse, hcommand, hhandle⟩

/-- A message that is posted is told as it was stored, and kept. -/
theorem posted_among {k : Ledger} (hk : db.Holds k) {now : Instant} {target text : String}
    {t : Timestamp} (h : (createMessage s now target ⟨text, some t⟩).Among db (.ok reply) db') :
    ∃ m : Message, reply.envelope.content = .message (.ofMessage m) ∧ Keeps db' m ∧
      m.userId = s.userId ∧ m.text = text ∧ m.createdAt = t ∧ m.updatedAt = none := by
  obtain ⟨channelId, -, h⟩ := among_checking h
  obtain ⟨text', htext, h⟩ := among_checking h
  obtain ⟨t', ht, h⟩ := among_checking h
  obtain ⟨steps, d, posted, hposted, h⟩ := among_asking h
  cases posted with
  | none => cases h
  | some m =>
    obtain ⟨steps', d', members, -, h⟩ := among_asking h
    obtain ⟨rfl, hkeeps⟩ := keeps_of_appended (hk.run steps) hposted
    obtain rfl : text = text' := by
      unfold writtenText at htext
      split at htext <;> cases htext
      rfl
    obtain rfl : t = t' := by
      simp only [messageTime] at ht
      split at ht <;> cases ht
      rfl
    cases h with
    | done steps'' =>
      exact ⟨_, rfl, ((hkeeps.run steps').perform _ d').run steps'', rfl, rfl, rfl, rfl⟩

/-- A list shows a message that is kept as it was stored. -/
theorem listed_among {m : Message} (hm : Keeps db m) {now : Instant} {command : Command}
    (h : (handle s now command).Among db (.ok reply) db')
    (htag : reply.envelope.tag = .listMessages) :
    ∃ ms, reply.envelope.content = .messages ⟨ms.map .ofMessage⟩ ∧ AgreesOn m ms := by
  cases command with
  | unknown tag => cases h
  | createPublicRoom room =>
    obtain ⟨name, -, h⟩ := among_checking h
    obtain ⟨steps, d, channel, -, h⟩ := among_asking h
    cases h
    cases htag
  | createMessage target m =>
    obtain ⟨channelId, -, h⟩ := among_checking h
    obtain ⟨text, -, h⟩ := among_checking h
    obtain ⟨t, -, h⟩ := among_checking h
    obtain ⟨steps, d, posted, -, h⟩ := among_asking h
    cases posted with
    | none => cases h
    | some m =>
      obtain ⟨steps', d', members, -, h⟩ := among_asking h
      cases h
      cases htag
  | listMessages target =>
    obtain ⟨channelId, -, h⟩ := among_checking h
    obtain ⟨steps, d, h⟩ := among_existing h
    obtain ⟨steps', d', ms, hms, h⟩ := among_asking h
    cases h
    exact ⟨ms, rfl, (((hm.run steps).perform _ d).run steps').listed hms⟩
  | joinPublicRoom target =>
    obtain ⟨channelId, -, h⟩ := among_checking h
    obtain ⟨steps, d, h⟩ := among_existing h
    obtain ⟨steps', d', added, -, h⟩ := among_asking h
    obtain ⟨steps'', d'', members, -, h⟩ := among_asking h
    cases h
    cases htag
  | leavePublicRoom target =>
    obtain ⟨channelId, -, h⟩ := among_checking h
    obtain ⟨steps, d, h⟩ := among_existing h
    obtain ⟨steps', d', removed, -, h⟩ := among_asking h
    obtain ⟨steps'', d'', members, -, h⟩ := among_asking h
    cases h
    cases htag

end

end ChatServer.Action

namespace ChatServer.Web

open Account Protocol Store Time

/-! ## Requests for pages -/

section
variable {db db' : Database} {answer : Answer} {m : Message}

/-- A request that is refused has another status than one that is not. -/
theorem among_authenticate {secret : String} {now : Instant} {r : Request} {n : Nat}
    (h : (authenticate secret now r).Among db (.error n) db') : n ≠ 200 := by
  unfold authenticate at h
  cases htoken : (r.header? "authorization").bind Bearer.strict? with
  | none =>
    rw [htoken] at h
    cases h
    decide
  | some token =>
    rw [htoken] at h
    obtain ⟨x, -, hx⟩ := h.of_map
    cases x with
    | ok who => cases hx
    | error f =>
      dsimp only at hx
      split at hx <;> cases hx <;> decide

/-- A page shows a message that is kept as it was stored. -/
theorem page_among (hm : Keeps db m) {channelId : Uuid} {q : PageQuery}
    (h : (readPage channelId q).Among db (.ok answer) db') (hstatus : answer.status = 200) :
    ∃ ms, answer.body = Message.codec.list.write ms ∧ AgreesOn m ms := by
  cases h with
  | ask steps d h =>
    cases hfound : ((db.run steps).perform (.getChannel channelId) d).1 with
    | error e =>
      rw [hfound] at h
      cases h
      cases hstatus
    | ok found =>
      rw [hfound] at h
      cases found with
      | none =>
        cases h
        cases hstatus
      | some c =>
        have hm' := (hm.run steps).perform (.getChannel channelId) d
        cases h with
        | ask steps' d' h =>
          cases hms : (Database.perform _ (.listMessages channelId (clampLimit q.limit) q.before) d').1 with
          | error e =>
            rw [hms] at h
            cases h
            cases hstatus
          | ok ms =>
            rw [hms] at h
            cases h
            exact ⟨ms, rfl, (hm'.run steps').listed hms⟩

structure IsHistory (r : Request) : Prop where
  method : r.method = "GET"
  route : ∃ channel, Route.ofPath? (Address.parts r.target).1 = some (.messages channel)

/-- A page that a request is answered with shows a message that is kept as it
was stored. -/
theorem history_among (hm : Keeps db m) {p : AccountPolicy} {now : Instant} {salt : String}
    {r : Request} (hr : IsHistory r) (h : (serve p now salt r).Among db (.ok answer) db')
    (hstatus : answer.status = 200) :
    ∃ ms, answer.body = Message.codec.list.write ms ∧ AgreesOn m ms := by
  obtain ⟨channel, hroute⟩ := hr.route
  rcases hparts : Address.parts r.target with ⟨path, query⟩
  rw [hparts] at hroute
  have hserve : serve p now salt r = protect p.secret now r (readHistory channel query) := by
    simp [serve, hparts, hroute, reading, hr.method]
  rw [hserve] at h
  obtain ⟨who, middle, hwho, h⟩ := h.of_bind
  cases who with
  | error n =>
    cases h
    exact absurd hstatus (among_authenticate hwho)
  | ok who =>
    obtain ⟨steps, rfl⟩ := hwho.steps
    dsimp only at h
    unfold readHistory at h
    split at h
    · cases h
      cases hstatus
    · split at h
      · cases h
        cases hstatus
      · exact page_among (hm.run steps) h hstatus

end

end ChatServer.Web

namespace ChatServer

open ChatServer.Action ChatServer.Web Json Protocol Store Time

/-! ## The whole way -/

/-- What clients see of a message that user `userId` posted as `text` at `time`,
in the frame of the reply and from then on. `db` is the store behind the
reply. -/
structure Echoed (userId : Uuid) (text time : String) (reply : Reply) (db : Database) (id : Uuid) :
    Prop where
  /-- The frame of the reply. -/
  reply : ∃ content, contentOf? reply.envelope.text = some content ∧
    Shows id userId text time content
  /-- Every frame with a list of messages, which any session may ask for
  later. -/
  lists : ∀ (s : Session) (now : Instant) (frame : String) (reply : Reply) (db' : Database),
    (respond s now frame).Among db reply db' → reply.envelope.tag = .listMessages →
    ∃ content items, contentOf? reply.envelope.text = some content ∧
      member? "messages" content = some (.array items) ∧ ShownIn id userId text time items
  /-- Every page of a channel, which any client may ask for later. -/
  pages : ∀ (p : AccountPolicy) (now : Instant) (salt : String) (r : Request) (answer : Web.Answer)
    (db' : Database), (serve p now salt r).Among db (.ok answer) db' → IsHistory r →
      answer.status = 200 →
    ∃ items, Codec.verbatim.parse answer.body = .ok (.array items) ∧
      ShownIn id userId text time items

theorem echoed_of_keeps {m : Message} {db : Database} {reply : Reply}
    (hreply : reply.envelope.content = .message (.ofMessage m)) (hm : Keeps db m)
    (hnone : m.updatedAt = none) :
    Echoed m.userId m.text m.createdAt.text reply db m.id where
  reply := by
    refine ⟨_, contentOf?_text _, ?_⟩
    rw [hreply]
    exact shows_content hnone
  lists := by
    intro s now frame reply' db' h htag
    obtain ⟨e, command, -, -, h⟩ := among_respond h (by rw [htag]; decide)
    obtain ⟨ms, hcontent, hagrees⟩ := listed_among hm h htag
    refine ⟨_, (ms.map MessageContent.ofMessage).map MessageContent.codec.encode,
      contentOf?_text _, ?_, ?_⟩
    · rw [hcontent]
      rfl
    · rw [List.map_map]
      exact hagrees.shownIn fun m' h' => shows_content h'
  pages := by
    intro p now salt r answer db' h hr hstatus
    obtain ⟨ms, hbody, hagrees⟩ := history_among hm hr h hstatus
    refine ⟨ms.map Message.codec.encode, by rw [hbody, parse_messages], ?_⟩
    exact hagrees.shownIn fun m' h' => shows_message h'

/-- **Messages come back as they were written.** A frame asks to post, its
content has a text and a time, and it is answered with no error, whatever else
happens to the store meanwhile. Then text and time are those that the content
spells, and the reply, every later list and every later page show the message
with exactly them, under one identifier and the user who wrote it. -/
theorem message_echoes (steps : List Step) (s : Session) (now : Instant) (frame : String)
    (e : Inbound) (text : String) (t : Timestamp) (reply : Reply) (db : Database)
    (hparse : Inbound.parse frame = .ok e) (htag : e.tag = ActionTag.createMessage.name)
    (hcontent : MessageRequest.codec.ofValue e.content = .ok ⟨text, some t⟩)
    (hrun : (respond s now frame).Among (Database.empty.run steps) reply db)
    (hsuccess : reply.envelope.tag ≠ .error) :
    Spells text t.text e.content ∧ ∃ id, Echoed s.userId text t.text reply db id := by
  refine ⟨spells_of_ofValue hcontent, ?_⟩
  obtain ⟨e', command, hparse', hcommand, h⟩ := among_respond hrun hsuccess
  obtain rfl : e = e' := Except.ok.inj (hparse.symm.trans hparse')
  have hof : ActionTag.ofName? e.tag = some .createMessage := by
    rw [htag]
    decide
  have hposts : e.command = .ok (.createMessage e.target ⟨text, some t⟩) := by
    simp only [Inbound.command, hof, Inbound.contentAs_ok hcontent]
    rfl
  obtain rfl : Command.createMessage e.target ⟨text, some t⟩ = command :=
    Except.ok.inj (hposts.symm.trans hcommand)
  obtain ⟨m, hreply, hkeeps, huser, htext, htime, hnone⟩ := posted_among (holds_ledgerOf steps) h
  refine ⟨m.id, ?_⟩
  rw [← huser, ← htext, ← htime]
  exact echoed_of_keeps hreply hkeeps hnone

/-- A post to the channel of the small run, with a letter that is escaped and a
time that is spelled as few would spell it. -/
def sampleSpelling : String :=
  "\x7b\"action_tag\":\"CREATE_MESSAGE\",\"target_id\":\"00000000-0000-0000-0000-000000000002\"," ++
    "\"content\":\x7b\"created_at\":\"2024-06-11t12:00:00.50+02:00\",\"text\":\"caf\\u00e9\"\x7d\x7d"

theorem message_echoes_sample :
    let answered := (respond sampleSession sampleNoon sampleSpelling).run (sampleDraw 5)
      (Database.empty.run sampleSteps)
    answered.1.envelope.tag = .createMessage ∧ ∃ id,
      Echoed (sampleId 1) "café" "2024-06-11t12:00:00.50+02:00" answered.1 answered.2 id := by
  intro answered
  have htag : answered.1.envelope.tag = .createMessage := by decide +kernel
  have hread : ((Inbound.parse sampleSpelling).toOption.map fun e => (e.tag,
      (MessageRequest.codec.ofValue e.content).toOption.map fun m =>
        (m.text, m.createdAt.map Timestamp.text))) =
      some ("CREATE_MESSAGE", some ("café", some "2024-06-11t12:00:00.50+02:00")) := by decide +kernel
  refine ⟨htag, ?_⟩
  cases hparse : Inbound.parse sampleSpelling with
  | error f => simp [hparse, Except.toOption] at hread
  | ok e =>
    cases hcontent : MessageRequest.codec.ofValue e.content with
    | error f => simp [hparse, hcontent, Except.toOption] at hread
    | ok m =>
      obtain ⟨text, t?⟩ := m
      obtain ⟨hname, rfl, ht⟩ : e.tag = "CREATE_MESSAGE" ∧ text = "café" ∧
          t?.map Timestamp.text = some "2024-06-11t12:00:00.50+02:00" := by
        simpa [hparse, hcontent, Except.toOption] using hread
      obtain ⟨t, rfl, htime⟩ := Option.map_eq_some_iff.1 ht
      obtain ⟨-, id, h⟩ := message_echoes sampleSteps sampleSession sampleNoon sampleSpelling e
        "café" t answered.1 answered.2 hparse hname hcontent (Plan.among_run ..)
        (by rw [htag]; decide)
      exact ⟨id, htime ▸ h⟩

end ChatServer

