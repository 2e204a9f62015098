import ChatServer.Action.Handling
import ChatServer.Proofs.Events

/-!
# Courses of requests

Between two operations of a handler the store is free, and other requests change
it. What a handler does and says must follow from the answers that it was given,
whatever the store held each time.

* `Plan.Yields`: every way through a plan, on stores that may be different at
  each question, comes to what is asked of it. The only thing relied on is that
  each of the stores is sound.
* `respond_courses`: a request posts one message and announces it, opens one
  room and announces it, or does neither and says neither.
-/
namespace ChatServer.Store

/-- Every way through a plan yields `R` of all that was done and of the result.
Behind `past`, each question is put to any store that holds some ledger. -/
def Plan.Yields {α : Type} (R : List Performed → α → Prop) : Plan α → List Performed → Prop
  | .done result, past => R past result
  | .ask op next, past => ∀ (db : Database) (k : Ledger) (d : Draw), db.Holds k →
    (next (db.perform op d).1).Yields R (past ++ [⟨op, d, (db.perform op d).1⟩])

theorem Plan.yields_map {α β : Type} {R : List Performed → β → Prop} {f : α → β} {p : Plan α}
    {past : List Performed} (h : p.Yields (fun past x => R past (f x)) past) :
    (p.map f).Yields R past := by
  induction p generalizing past with
  | done x => exact h
  | ask op next ih => exact fun db k d hdb => ih _ (h db k d hdb)

end ChatServer.Store

namespace ChatServer.Action

open Delivery Protocol Store Time

/-! ## Plans of handlers -/

section
variable {R : List Performed → Outcome → Prop} {past : List Performed}

theorem yields_checking {α : Type} {check : Except Refusal α} {next : α → Plan Outcome}
    (herror : ∀ r, R past (.error r)) (hok : ∀ x, (next x).Yields R past) :
    (checking check next).Yields R past := by
  cases check with
  | error r => exact herror r
  | ok x => exact hok x

theorem yields_asking {op : Operation} {next : op.Answer → Plan Outcome}
    (herror : ∀ d e, R (past ++ [⟨op, d, .error e⟩]) (.error (.store e)))
    (hok : ∀ (db : Database) (k : Ledger) (d : Draw) (answer : op.Answer), db.Holds k →
      (db.perform op d).1 = .ok answer → (next answer).Yields R (past ++ [⟨op, d, .ok answer⟩])) :
    (asking op next).Yields R past := by
  intro db k d hdb
  cases h : (db.perform op d).1 with
  | error e => exact herror d e
  | ok answer => exact hok db k d answer hdb h

/-- Members of a channel can always be listed. -/
theorem yields_listMembers {channelId : Uuid} {next : List Uuid → Plan Outcome}
    (h : ∀ d members, (next members).Yields R (past ++ [⟨.listMembers channelId, d, .ok members⟩])) :
    (asking (.listMembers channelId) next).Yields R past := by
  intro db k d hdb
  rw [perform_listMembers hdb]
  exact h d _

end

/-! ## Courses -/

/-- The course of a request of session `s`: all that it asked of the store, and
its reply. Opening a channel and posting have a case of their own; nothing else
adds a channel or a message. -/
inductive Course (s : Session) : List Performed → Reply → Prop
  | other {past : List Performed} {reply : Reply} (hpast : ∀ e ∈ past, e.Quiet)
    (hmessage : reply.envelope.tag ≠ .createMessage)
    (hroom : reply.envelope.tag ≠ .createPublicRoom) :
    Course s past reply
  | opened {name : String} {d : Draw} {channel : Channel} :
    Course s [⟨.createChannel .publicRoom name s.userId, d, .ok channel⟩]
      (.toChannel s [s.userId] .createPublicRoom channel.id (.room (.ofChannel channel)))
  | posted {new : NewMessage} {d d' : Draw} {message : Message} {members : List Uuid}
    (hmessage : message = new.toMessage d.id) (hsender : new.senderId = s.id)
    (huser : new.userId = s.userId) :
    Course s [⟨.appendMessage new, d, .ok (some message)⟩,
      ⟨.listMembers new.channelId, d', .ok members⟩]
      (.toChannel s members .createMessage new.channelId (.message (.ofMessage message)))

section
variable {s : Session} {inbound : Inbound} {past : List Performed}

/-- What a handler's course comes to, told to the session. -/
abbrev Told (s : Session) (inbound : Inbound) (past : List Performed) (outcome : Outcome) : Prop :=
  Course s past (conclude s inbound outcome)

theorem told_refused (hpast : ∀ e ∈ past, e.Quiet) (r : Refusal) : Told s inbound past (.error r) :=
  .other hpast (by simp [conclude, Reply.refuse, Envelope.ofError])
    (by simp [conclude, Reply.refuse, Envelope.ofError])

theorem quiet_append {e : Performed} (hpast : ∀ e ∈ past, e.Quiet) (he : e.Quiet) :
    ∀ e' ∈ past ++ [e], e'.Quiet := by
  intro e' h
  rcases List.mem_append.1 h with h | h
  · exact hpast e' h
  · rw [List.mem_singleton.1 h]; exact he

/-- An operation that is always quiet may come before anything. -/
theorem yields_quiet {op : Operation} {next : op.Answer → Plan Outcome}
    (hpast : ∀ e ∈ past, e.Quiet) (hop : ∀ d answer, Performed.Quiet ⟨op, d, .ok answer⟩)
    (h : ∀ answer past, (∀ e ∈ past, e.Quiet) → (next answer).Yields (Told s inbound) past) :
    (asking op next).Yields (Told s inbound) past := by
  refine yields_asking (fun d e => ?_) fun db k d answer _ _ => ?_
  · exact told_refused (quiet_append hpast (Performed.quiet_error op d e)) _
  · exact h answer _ (quiet_append hpast (hop d answer))

theorem yields_existing {channelId : Uuid} {next : Plan Outcome} (hpast : ∀ e ∈ past, e.Quiet)
    (h : ∀ past, (∀ e ∈ past, e.Quiet) → next.Yields (Told s inbound) past) :
    (existing channelId next).Yields (Told s inbound) past := by
  refine yields_quiet hpast (fun _ _ => ⟨rfl, rfl⟩) fun found past hpast => ?_
  cases found with
  | none => exact told_refused hpast _
  | some channel => exact h past hpast

theorem yields_announce {tag : ActionTag} {channelId : Uuid} (hpast : ∀ e ∈ past, e.Quiet)
    (hmessage : tag ≠ .createMessage) (hroom : tag ≠ .createPublicRoom) :
    (announce s tag channelId).Yields (Told s inbound) past :=
  yields_quiet hpast (fun _ _ => ⟨rfl, rfl⟩) fun _ _ hpast => .other hpast hmessage hroom

end

/-- Nothing has been done before the first question. -/
theorem quiet_nil : ∀ e ∈ ([] : List Performed), e.Quiet := by simp

/-- Every command runs one of the courses. -/
theorem handle_courses (s : Session) (now : Instant) (inbound : Inbound) (command : Command) :
    (handle s now command).Yields (Told s inbound) [] := by
  have refused (r : Refusal) : Told s inbound [] (.error r) := told_refused quiet_nil r
  cases command with
  | unknown tag => exact refused _
  | createPublicRoom room =>
    refine yields_checking refused fun name =>
      yields_asking (fun d e => ?_) fun db k d channel _ _ => ?_
    · exact told_refused (quiet_append quiet_nil (Performed.quiet_error _ d e)) _
    · exact .opened
  | createMessage target m =>
    refine yields_checking refused fun channelId => yields_checking refused fun text =>
      yields_checking refused fun createdAt =>
        yields_asking (fun d e => ?_) fun db k d posted hdb h => ?_
    · exact told_refused (quiet_append quiet_nil (Performed.quiet_error _ d e)) _
    · cases posted with
      | none => exact told_refused (quiet_append quiet_nil ⟨rfl, rfl⟩) _
      | some message =>
        obtain ⟨-, t, ha, -⟩ := Database.perform_eq_ok h
        obtain ⟨-, hnone, -⟩ | ⟨-, hmessage, -⟩ := Tables.appendMessage_eq_ok ha
        · cases hnone
        · exact yields_listMembers fun d' members => .posted (Option.some.inj hmessage) rfl rfl
  | listMessages target =>
    refine yields_checking refused fun channelId => yields_existing quiet_nil fun past hpast => ?_
    exact yields_quiet hpast (fun _ _ => ⟨rfl, rfl⟩) fun messages past hpast =>
      .other hpast (by simp [conclude, Reply.toSession]) (by simp [conclude, Reply.toSession])
  | joinPublicRoom target =>
    refine yields_checking refused fun channelId => yields_existing quiet_nil fun past hpast => ?_
    exact yields_quiet hpast (fun _ _ => ⟨rfl, rfl⟩) fun _ past hpast =>
      yields_announce hpast (by decide) (by decide)
  | leavePublicRoom target =>
    refine yields_checking refused fun channelId => yields_existing quiet_nil fun past hpast => ?_
    exact yields_quiet hpast (fun _ _ => ⟨rfl, rfl⟩) fun _ past hpast =>
      yields_announce hpast (by decide) (by decide)

/-- **What a request does, whoever comes in between.** Every text frame runs one
of the courses, on whichever sound stores its questions are put to. -/
theorem respond_courses (s : Session) (now : Instant) (text : String) :
    (respond s now text).Yields (Course s) [] := by
  obtain ⟨r, tag, targetId, hrefused⟩ | ⟨inbound, command, -, -, hhandled⟩ :=
    respond_cases s now text
  · rw [hrefused]
    exact .other quiet_nil (by simp [Reply.refuse, Envelope.ofError])
      (by simp [Reply.refuse, Envelope.ofError])
  · rw [hhandled]
    exact Plan.yields_map (handle_courses s now inbound command)

/-! ## Announcements -/

/-- The envelope that tells of a message. -/
def announcement (message : Message) : Envelope :=
  ⟨.createMessage, message.channelId.text, message.senderId, .message (.ofMessage message)⟩

/-- What a room's envelope says, apart from who opened it. -/
def opening (channel : Channel) : String × Content := (channel.id.text, .room (.ofChannel channel))

theorem toChannel_message {s : Session} {members : List Uuid} {new : NewMessage} {id : Uuid}
    (hsender : new.senderId = s.id) :
    Reply.toChannel s members .createMessage new.channelId (.message (.ofMessage (new.toMessage id))) =
      ⟨.channel members s.id, announcement (new.toMessage id)⟩ := by
  rw [announcement, NewMessage.toMessage, hsender]
  rfl

section
variable {s : Session} {past : List Performed} {reply : Reply}

/-- A request tells of the messages that it appended, and of no others. -/
theorem Course.announced (h : Course s past reply) :
    (past.filterMap Performed.appended?).map announcement =
      [reply.envelope].filter (·.tag == .createMessage) := by
  cases h with
  | other hpast hmessage hroom =>
    have hnone : past.filterMap Performed.appended? = [] :=
      List.filterMap_eq_nil_iff.2 fun e he => (hpast e he).2
    simp [hnone, hmessage]
  | opened => rfl
  | posted hmessage hsender huser =>
    subst hmessage
    rw [toChannel_message hsender]
    rfl

/-- A request tells of the channels that it created, and of no others. -/
theorem Course.opening (h : Course s past reply) :
    (past.filterMap Performed.created?).map opening =
      ([reply.envelope].filter (·.tag == .createPublicRoom)).map fun e =>
      (e.targetId, e.content) := by
  cases h with
  | other hpast hmessage hroom =>
    have hnone : past.filterMap Performed.created? = [] :=
      List.filterMap_eq_nil_iff.2 fun e he => (hpast e he).1
    simp [hnone, hroom]
  | opened => rfl
  | posted hmessage hsender huser => rfl

end

end ChatServer.Action

