import ChatServer.Proofs.Admission
import ChatServer.Proofs.HistoryAddress
import ChatServer.Proofs.JsonRoundTrip
import ChatServer.Proofs.Outcomes
import ChatServer.Proofs.Paging

/-!
# Two ways to a history

The newest messages of a channel are read over HTTP, as a page of the length
that is asked for, and over a socket, as a list of at most 200. Both ask the
store whether the channel is there, and both take the end of its timeline, so a
page is the end of the list. Nothing in this depends on what the messages hold
or on how many there are.

* `lastItems_suffix`: a shorter end is the end of a longer one.
* `run_serve`, `run_respond`: each of the two readers, from what the store
  finds.
* `histories_agree`: the page is the end of the list, and both miss the same
  channels.
-/
namespace ChatServer.Store

theorem lastItems_suffix {α : Type} {m n : Nat} (h : m ≤ n) (xs : List α) :
    lastItems m xs <:+ lastItems n xs := by
  have hsplit : xs.length - m = (xs.length - n) + ((xs.length - m) - (xs.length - n)) := by omega
  rw [lastItems, lastItems, hsplit, ← List.drop_drop]
  exact List.drop_suffix _ _

theorem length_lastItems {α : Type} (n : Nat) (xs : List α) :
    (lastItems n xs).length = min n xs.length := by
  rw [lastItems, List.length_drop]
  omega

end ChatServer.Store

namespace ChatServer

open Account ChatServer.Action Delivery Json Protocol Store Time Web

/-! ## Requests -/

/-- A request over HTTP for the newest messages of a channel, with a limit or
without one. -/
structure AsksPage (r : Request) (channelId : Uuid) (limit : Option Nat) : Prop where
  method : r.method = "GET"
  path : ∃ segment, Route.ofPath? (Address.parts r.target).1 = some (.messages segment) ∧
    (Address.segmentText? segment).bind Uuid.parse? = some channelId
  query : AsksNewest (Address.fields (Address.parts r.target).2) limit

/-- The address of a channel's messages is such a request for every limit that
fits its word. -/
theorem asksPage_target (channelId : Uuid) {limit : Option Nat} (h : ∀ n ∈ limit, n ≤ 0xffffffff)
    (headers : List (String × String)) (body : String) :
    AsksPage ⟨"GET", historyTarget channelId limit, headers, body⟩ channelId limit where
  method := rfl
  path := by
    refine ⟨channelId.chars, ?_, ?_⟩
    · rw [parts_historyTarget]
      exact ofPath?_history channelId
    · rw [Address.segmentText?_literal (Address.isLiteral_uuid channelId)]
      exact Uuid.parse?_text channelId
  query := by
    rw [parts_historyTarget]
    exact asksNewest_limitQuery limit h

/-- A frame that asks for the messages of a channel. -/
def AsksList (text : String) (channelId : Uuid) : Prop :=
  ∃ inbound, Inbound.parse text = .ok inbound ∧ inbound.tag = ActionTag.listMessages.name ∧
    Uuid.parse? inbound.target = some channelId

theorem Inbound.readsBack_plain {depth : Nat} (tag : String) (targetId senderId : Option String) :
    Inbound.codec.ReadsBack (depth + 2) ⟨tag, targetId, senderId, .null⟩ :=
  reads_fields (by decide) ⟨reads_text _, reads_optional (fun _ => rfl) reads_text _,
    reads_optional (fun _ => rfl) reads_text _, fun _ _ => rfl, trivial⟩ rfl

theorem asksList_frame (channelId : Uuid) :
    AsksList (Inbound.codec.write ⟨ActionTag.listMessages.name, some channelId.text, none,
      .null⟩) channelId := by
  refine ⟨⟨ActionTag.listMessages.name, some channelId.text, none, .null⟩, ?_, rfl,
    Uuid.parse?_text channelId⟩
  rw [Inbound.parse, (Inbound.readsBack_plain _ _ _).parse_write]
  rfl

/-! ## Answers -/

/-- Requests for data leave the store as it is until they are let through. -/
theorem authenticate_database (secret : String) (now : Instant) (r : Request) (d : Draw)
    (db : Database) :
    ((authenticate secret now r).run d db).2 = db := by
  rw [authenticate_eq]
  split
  · exact Admission.authenticateSocket_database secret now r d db
  · rfl

section
variable {db : Database} {k : Ledger} {channelId : Uuid}

/-- What a reader over HTTP is answered, if the store finds this. -/
def pageAnswer (k : Ledger) (channelId : Uuid) (n : Nat) :
    Except Store.Error (Option Channel) → Answer
  | .error _ => .ofStatus 500
  | .ok none => .ofStatus 404
  | .ok (some _) => .json (Message.codec.list.write (lastItems (clampLimit n) (k.timeline channelId)))

/-- What a reader over a socket is answered, if the store finds this. -/
def listContent (k : Ledger) (channelId : Uuid) : Except Store.Error (Option Channel) → Content
  | .error e => .error ⟨(Refusal.store e).code, (Refusal.store e).message,
      some ActionTag.listMessages.name⟩
  | .ok none =>
    .error ⟨(Refusal.noSuchChannel channelId).code, (Refusal.noSuchChannel channelId).message,
      some ActionTag.listMessages.name⟩
  | .ok (some _) => .messages ⟨(lastItems listLimit (k.timeline channelId)).map .ofMessage⟩

theorem run_serve (hdb : db.Holds k) {p : AccountPolicy} {now : Instant} {salt : String}
    {r : Request} {limit : Option Nat} (hr : AsksPage r channelId limit) {d : Draw} {who : Identity}
    (hwho : ((authenticate p.secret now r).run d db).1 = .ok who) :
    (serve p now salt r).run d db =
      (.ok (pageAnswer k channelId (limit.getD 50) (db.tables.getChannel channelId)), db) := by
  obtain ⟨segment, hpath, hchannel⟩ := hr.path
  have hplan : (serve p now salt r).run d db =
      (readPage channelId ⟨limit.getD 50, none⟩).run d db := by
    have hroute : serve p now salt r =
        protect p.secret now r (readPage channelId ⟨limit.getD 50, none⟩) := by
      simp only [serve, hr.method, hpath, reading, readHistory, hchannel,
        hr.query.readQuery, if_true]
      rfl
    rw [hroute, protect, Plan.run_bind, hwho, authenticate_database]
  have hfound : db.perform (.getChannel channelId) d = (db.tables.getChannel channelId, db) :=
    Database.perform_asking hdb.healthy rfl
  rw [hplan, readPage, Plan.run, hfound]
  cases db.tables.getChannel channelId with
  | error e => rfl
  | ok found =>
    cases found with
    | none => rfl
    | some c =>
      have hpage := answer_listMessages hdb channelId (clampLimit (limit.getD 50)) none d
      have hsame : (db.perform (.listMessages channelId (clampLimit (limit.getD 50)) none) d).2 = db := by
        rw [Database.perform_asking hdb.healthy rfl]
      rw [Database.answer] at hpage
      dsimp only
      rw [Plan.run, hpage, hsame]
      rfl

theorem run_respond (hdb : db.Holds k) {text : String} (htext : AsksList text channelId)
    (s : Session) (now : Instant) (d : Draw) :
    ((respond s now text).run d db).1.envelope.content =
      listContent k channelId (db.tables.getChannel channelId) := by
  obtain ⟨inbound, hparse, htag, htarget⟩ := htext
  have hcommand : inbound.command = .ok (.listMessages inbound.target) := by
    rw [Inbound.command, htag, ActionTag.ofName?_name]
  have hfound : db.perform (.getChannel channelId) d = (db.tables.getChannel channelId, db) :=
    Database.perform_asking hdb.healthy rfl
  have hlist := answer_listMessages hdb channelId listLimit none d
  rw [Database.answer] at hlist
  rw [respond_decoded hparse hcommand]
  simp only [Plan.run_map, handle, listMessages, targetChannel, htarget, checking, existing, asking,
    Plan.run, hfound]
  cases db.tables.getChannel channelId with
  | error e =>
    dsimp only
    rw [Plan.run, conclude, htag]
    rfl
  | ok found =>
    cases found with
    | none =>
      dsimp only
      rw [Plan.run, conclude, htag]
      rfl
    | some c =>
      dsimp only
      rw [Plan.run, hlist]
      rfl

end

/-! ## Agreement -/

theorem readsBack_messages (ms : List Message) : Message.codec.list.ReadsBack (126 + 2) ms :=
  reads_list (fun m _ => fits_message m) fun m _ => m.readsBack

/-- What a reader over HTTP who asked for so many messages is answered, and what
a reader over a socket is told. -/
structure Agree (n : Nat) (a : Answer) (c : Content) : Prop where
  /-- Both miss the channel or neither does. -/
  missing : a.status = 404 ↔ ∃ e, c = .error e ∧ e.code = .notFound
  /-- The store fails both or neither. -/
  failed : a.status = 500 ↔ ∃ e, c = .error e ∧ e.code = .serverError
  /-- Else the page that is read in the one is the end of the list in the
  other. -/
  page : a.status ≠ 404 → a.status ≠ 500 → ∃ page listed, Message.codec.list.parse a.body =
    .ok page ∧
    c = .messages ⟨listed⟩ ∧ page.map MessageContent.ofMessage <:+ listed ∧
      page.length = min (max 1 (min n 200)) listed.length

theorem agree_found (k : Ledger) (channelId : Uuid) (n : Nat)
    (found : Except Store.Error (Option Channel)) :
    Agree n (pageAnswer k channelId n found) (listContent k channelId found) := by
  unfold pageAnswer listContent
  cases found with
  | error e =>
    have hanswer : Answer.status (.ofStatus 500) = 500 := rfl
    exact ⟨by simp [hanswer, Refusal.code], by simp [hanswer, Refusal.code],
      fun _ h => absurd hanswer h⟩
  | ok found =>
    cases found with
    | none =>
      have hanswer : Answer.status (.ofStatus 404) = 404 := rfl
      exact ⟨by simp [hanswer, Refusal.code], by simp [hanswer, Refusal.code],
        fun h => absurd hanswer h⟩
    | some c =>
      have hanswer (text : String) : Answer.status (.json text) = 200 := rfl
      refine ⟨by simp [hanswer], by simp [hanswer], fun _ _ => ?_⟩
      have hlimit : clampLimit n ≤ listLimit := (clampLimit_mem n).2
      refine ⟨lastItems (clampLimit n) (k.timeline channelId), _, ?_, rfl, ?_, ?_⟩
      · exact Codec.ReadsBack.parse_write (readsBack_messages _)
      · exact (lastItems_suffix hlimit _).map _
      · rw [List.length_map, length_lastItems, length_lastItems]
        simp only [clampLimit, longestPage, listLimit] at hlimit ⊢
        omega

/-- **Two ways to a history.** Whatever the store has come to hold, a reader
over HTTP who is let through and a reader over a socket agree on which channels
are there and on their newest messages, 50 of them if there is no limit. Where
the clock was within four-digit years, the store fails neither. -/
theorem histories_agree (steps : List Step) {channelId : Uuid} (p : AccountPolicy) (now : Instant)
    (salt : String)
    {r : Request} {limit : Option Nat} (hr : AsksPage r channelId limit) {d : Draw} {who : Identity}
    (hwho : ((authenticate p.secret now r).run d (Database.empty.run steps)).1 = .ok who)
    (s : Session) (later : Instant) (d' : Draw) {text : String} (htext : AsksList text channelId) :
    let db := Database.empty.run steps
    ∃ a, (serve p now salt r).run d db = (.ok a, db) ∧
      Agree (limit.getD 50) a ((respond s later text).run d' db).1.envelope.content ∧
      ((∀ step ∈ steps, step.Timely) → a.status ≠ 500) := by
  intro db
  have hdb := holds_ledgerOf steps
  refine ⟨_, run_serve hdb hr hwho, ?_, ?_⟩
  · rw [run_respond hdb htext]
    exact agree_found _ _ _ _
  · intro hclock
    have hdated : (ledgerOf steps).Dated := Ledger.dated_empty.run Database.holds_empty hclock
    obtain ⟨found, hfound, -⟩ := perform_getChannel hdb hdated channelId d
    have hasked : (db.perform (.getChannel channelId) d).1 = db.tables.getChannel channelId := by
      rw [Database.perform_asking hdb.healthy rfl]
    rw [hfound] at hasked
    rw [← hasked]
    cases found <;> simp [pageAnswer, Answer.ofStatus, Answer.json]

def tokenRequest (target token : String) : Web.Request :=
  ⟨"GET", target, [("authorization", String.ofList (Bearer.scheme ++ ' ' :: token.toList))], ""⟩

theorem authenticate_tokenRequest {secret token : String} {now : Instant} {held : Claims}
    (h : Token.check secret now token = .ok held) (target : String) :
    authenticate secret now (tokenRequest target token) = admitted secret now (some token) := by
  have hname : Request.sameName "authorization" "authorization" = true := by decide
  have hchars : token.toList.all Bearer.isHeaderChar = true :=
    List.all_eq_true.2 fun c hc => (Token.plain_of_check h c hc).1
  rw [authenticate]
  simp only [tokenRequest, Request.header?, List.find?_cons, hname, Option.map_some,
    Option.bind_some,
    Bearer.strict?_word, hchars, if_true, String.ofList_toList]

/-- A user of the small run asks for one message of its channel, and a session
for the list. -/
theorem histories_agree_sample :
    let token := Token.sign "key" ⟨sampleUser.id, sampleUser.email,
      Token.expiryWord (sampleNoon.unixSeconds + 0)⟩
    let r := tokenRequest (historyTarget (sampleId 2) (some 1)) token
    let frame := Inbound.codec.write ⟨ActionTag.listMessages.name, some (sampleId 2).text,
      none, .null⟩
    ∃ a, (serve ⟨"key", 60, .plain []⟩ sampleNoon "" r).run (sampleDraw 5)
        (Database.empty.run sampleSteps) = (.ok a, Database.empty.run sampleSteps) ∧
      Agree ((some 1).getD 50) a ((respond sampleSession sampleNoon frame).run (sampleDraw 5)
        (Database.empty.run sampleSteps)).1.envelope.content ∧
      ((∀ step ∈ sampleSteps, step.Timely) → a.status ≠ 500) := by
  have hword := Token.expiryWord_le (sampleNoon.unixSeconds + 0)
  have hbehind : ¬ (Token.expiryWord (sampleNoon.unixSeconds + 0) : Int) <
      sampleNoon.unixSeconds - Token.leeway := by
    decide
  generalize Token.expiryWord (sampleNoon.unixSeconds + 0) = expiry at hword hbehind ⊢
  intro token r frame
  have hchecked :=
    Token.check_sign "key" sampleNoon (c := ⟨sampleUser.id, sampleUser.email, expiry⟩) hword
  have hverified := verify_sign sampleUser_stored "key" sampleUser.email hword sampleNoon
  rw [if_neg hbehind] at hchecked hverified
  have hwho : ((authenticate "key" sampleNoon r).run (sampleDraw 5) (Database.empty.run sampleSteps)).1 =
      .ok sampleUser.identity := by
    rw [authenticate_tokenRequest hchecked, admitted, Plan.run_map, hverified]
  have hr : AsksPage r (sampleId 2) (some 1) :=
    asksPage_target (sampleId 2) (fun n hn => Option.some.inj hn ▸ by decide) _ _
  exact histories_agree sampleSteps ⟨"key", 60,
    .plain []⟩ sampleNoon "" hr hwho sampleSession sampleNoon (sampleDraw 5)
    (asksList_frame (sampleId 2))

end ChatServer

