import ChatServer.Proofs.FirstChecks

/-!
# Spellings of an identifier

An identifier may be spelled in several ways. What a client asks of a channel
does not depend on how it spells the channel's identifier: the store, who is
told, and what they are told are the same, in the one form that the server
itself writes. Only where a request is refused does its own spelling come back.

* `Uuid.parse?_eq_some_iff`: the texts that are read as an identifier.
* `handle_respelled`: requests that differ in the spelling of their target have
  the same plan.
* `respond_respelled`: frames that do.
-/
namespace ChatServer.Text.Hex

/-! ## Digits in either case -/

theorem toUpper_digit : ∀ d :
    Fin 16, 10 ≤ d.val → (digit d).toUpper = Char.ofNat (0x37 + d.val) := by decide

/-- A digit is written in lower case or in upper case. -/
theorem value?_eq_some_iff {c : Char} {d : Fin 16} :
    value? c = some d ↔ c = digit d ∨ c = (digit d).toUpper := by
  constructor
  · intro h
    have hc : Char.ofNat c.toNat = c := Char.ofNat_toNat c
    simp only [value?] at h
    split at h
    · cases h
      left
      rw [digit, if_pos (by dsimp only; omega), show 0x30 + (c.toNat - 0x30) = c.toNat by omega, hc]
    · split at h
      · cases h
        right
        rw [toUpper_digit _ (by dsimp only; omega), show 0x37 + (c.toNat - 0x37) =
          c.toNat by omega, hc]
      · split at h
        · cases h
          left
          rw [digit, if_neg (by dsimp only; omega), show 0x57 + (c.toNat - 0x57) =
            c.toNat by omega, hc]
        · cases h
  · rintro (rfl | rfl)
    · exact value?_digit d
    · revert d
      decide

end ChatServer.Text.Hex

namespace ChatServer.Uuid

open Text

/-! ## The texts that are read as an identifier -/

/-- Characters that write these digits, each in either case. -/
abbrev Spells (cs : List Char) (ds : List (Fin 16)) : Prop :=
  List.Forall₂ (fun c d => c = Hex.digit d ∨ c = (Hex.digit d).toUpper) cs ds

/-- The ways to spell an identifier: its digits alone, in groups with hyphens
between them, and so in braces or behind the mark of the URN form, which may be
in either case, too. -/
inductive Spelling (id : Uuid) : List Char → Prop
  | plain {cs : List Char} (h : Spells cs id.digits) : Spelling id cs
  | hyphenated {cs : List Char} (h : Spells cs id.digits) : Spelling id (hyphenate cs)
  | braced {cs : List Char} (h : Spells cs id.digits) : Spelling id ('{' :: hyphenate cs ++ ['}'])
  | urn {mark cs : List Char} (hmark : mark.map Char.toLower = urnMark) (h : Spells cs id.digits) :
    Spelling id (mark ++ hyphenate cs)

theorem digits?_eq_some_iff {cs : List Char} {ds : List (Fin 16)} :
    digits? cs = some ds ↔ Spells cs ds := by
  induction cs generalizing ds with
  | nil => simp [digits?, Spells, eq_comm]
  | cons c cs ih =>
    simp only [digits?, Option.bind_eq_bind, Option.bind_eq_some_iff, Hex.value?_eq_some_iff,
      ih, Spells,
      List.forall₂_cons_left_iff]
    constructor
    · rintro ⟨d, hd, ds', hds, ⟨⟩⟩
      exact ⟨d, ds', hd, hds, rfl⟩
    · rintro ⟨d, ds', hd, hds, rfl⟩
      exact ⟨d, hd, ds', hds, rfl⟩

theorem length_hyphenate {cs : List Char} (h : cs.length = 32) : (hyphenate cs).length = 36 := by
  simp [hyphenate, h]

section
variable {id : Uuid} {cs w : List Char}

theorem length_of_spells (h : Spells cs id.digits) : cs.length = 32 :=
  h.length_eq.trans id.length_digits

theorem ofPlain?_eq_some_iff : ofPlain? cs = some id ↔ Spells cs id.digits := by
  rw [← digits?_eq_some_iff, ofPlain?]
  cases hds : digits? cs with
  | none => simp
  | some ds =>
    have hlen := id.length_digits
    obtain ⟨own, hown⟩ := id
    simp only [Option.bind_eq_bind, Option.bind_some, Option.some.injEq]
    constructor
    · intro h
      split at h
      · cases h
        rfl
      · cases h
    · rintro rfl
      rw [dif_pos hown]

theorem ofHyphenated?_eq_some_iff :
    ofHyphenated? cs = some id ↔ ∃ w, Spells w id.digits ∧ cs = hyphenate w := by
  unfold ofHyphenated?
  constructor
  · intro h
    split at h
    · next hcs => exact ⟨dropHyphens cs, ofPlain?_eq_some_iff.1 h, hcs.symm⟩
    · cases h
  · rintro ⟨w, hw, rfl⟩
    rw [dropHyphens_hyphenate (length_of_spells hw), if_pos rfl]
    exact ofPlain?_eq_some_iff.2 hw

theorem unbraced?_eq_some_iff : unbraced? cs = some w ↔ cs = '{' :: (w ++ ['}']) := by
  unfold unbraced?
  constructor
  · intro h
    split at h
    · next hcs =>
      obtain ⟨hfirst, hlast, hlong⟩ := hcs
      cases h
      cases cs with
      | nil => cases hfirst
      | cons c cs =>
        obtain rfl := Option.some.inj hfirst
        have hne : cs ≠ [] := by
          rintro rfl
          simp at hlong
        rw [List.getLast?_cons_of_ne_nil hne, List.getLast?_eq_some_iff] at hlast
        obtain ⟨inner, rfl⟩ := hlast
        simp
    · cases h
  · rintro rfl
    have hlast : ('{' :: (w ++ ['}'])).getLast? = some '}' := List.getLast?_concat (l := '{' :: w)
    simp [hlast]

theorem afterUrnMark?_eq_some_iff :
    afterUrnMark? cs = some w ↔ ∃ mark, mark.map Char.toLower = urnMark ∧ cs = mark ++ w := by
  unfold afterUrnMark?
  constructor
  · intro h
    split at h
    · next hmark =>
      cases h
      exact ⟨cs.take 9, hmark, (List.take_append_drop 9 cs).symm⟩
    · cases h
  · rintro ⟨mark, hmark, rfl⟩
    have hlen : mark.length = 9 := (List.length_map ..).symm.trans (congrArg List.length hmark)
    rw [List.take_left' hlen, if_pos hmark, List.drop_left' hlen]

theorem ofBraced?_eq_some_iff : (unbraced? cs >>= ofHyphenated?) = some id ↔
    ∃ w, Spells w id.digits ∧ cs = '{' :: (hyphenate w ++ ['}']) := by
  simp only [Option.bind_eq_bind, Option.bind_eq_some_iff, unbraced?_eq_some_iff,
    ofHyphenated?_eq_some_iff]
  constructor
  · rintro ⟨_, rfl, w, hw, rfl⟩
    exact ⟨w, hw, rfl⟩
  · rintro ⟨w, hw, rfl⟩
    exact ⟨_, rfl, w, hw, rfl⟩

theorem ofUrn?_eq_some_iff : (afterUrnMark? cs >>= ofHyphenated?) = some id ↔
    ∃ mark w, mark.map Char.toLower = urnMark ∧ Spells w id.digits ∧ cs = mark ++ hyphenate w := by
  simp only [Option.bind_eq_bind, Option.bind_eq_some_iff, afterUrnMark?_eq_some_iff,
    ofHyphenated?_eq_some_iff]
  constructor
  · rintro ⟨_, ⟨mark, hmark, rfl⟩, w, hw, rfl⟩
    exact ⟨mark, w, hmark, hw, rfl⟩
  · rintro ⟨mark, w, hmark, hw, rfl⟩
    exact ⟨_, ⟨mark, hmark, rfl⟩, w, hw, rfl⟩

/-! ### Each reader takes texts of one length only -/

theorem ofPlain?_eq_none (h : cs.length ≠ 32) : ofPlain? cs = none :=
  Option.eq_none_iff_forall_ne_some.2 fun _ hid => h (length_of_spells (ofPlain?_eq_some_iff.1 hid))

theorem ofHyphenated?_eq_none (h : cs.length ≠ 36) : ofHyphenated? cs = none := by
  refine Option.eq_none_iff_forall_ne_some.2 fun _ hid => h ?_
  obtain ⟨w, hw, rfl⟩ := ofHyphenated?_eq_some_iff.1 hid
  exact length_hyphenate (length_of_spells hw)

theorem ofBraced?_eq_none (h : cs.length ≠ 38) : (unbraced? cs >>= ofHyphenated?) = none := by
  refine Option.eq_none_iff_forall_ne_some.2 fun _ hid => h ?_
  obtain ⟨w, hw, rfl⟩ := ofBraced?_eq_some_iff.1 hid
  simp [length_hyphenate (length_of_spells hw)]

end

/-- The texts that are read as an identifier are its spellings. -/
theorem parse?_eq_some_iff {id : Uuid} {text : String} :
    parse? text = some id ↔ Spelling id text.toList := by
  unfold parse?
  generalize text.toList = cs
  simp only [Option.orElse_eq_orElse, Option.orElse_eq_or, Option.or_eq_some_iff]
  constructor
  · rintro (h | ⟨-, h | ⟨-, h | ⟨-, h⟩⟩⟩)
    · exact .plain (ofPlain?_eq_some_iff.1 h)
    · obtain ⟨w, hw, rfl⟩ := ofHyphenated?_eq_some_iff.1 h
      exact .hyphenated hw
    · obtain ⟨w, hw, rfl⟩ := ofBraced?_eq_some_iff.1 h
      exact .braced hw
    · obtain ⟨mark, w, hmark, hw, rfl⟩ := ofUrn?_eq_some_iff.1 h
      exact .urn hmark hw
  · intro h
    cases h with
    | plain hw => exact .inl (ofPlain?_eq_some_iff.2 hw)
    | @hyphenated w hw =>
      have hlen := length_hyphenate (length_of_spells hw)
      exact .inr ⟨ofPlain?_eq_none (by omega), .inl (ofHyphenated?_eq_some_iff.2 ⟨w, hw, rfl⟩)⟩
    | @braced w hw =>
      have hlen : ('{' :: hyphenate w ++ ['}']).length =
        38 := by simp [length_hyphenate (length_of_spells hw)]
      exact .inr ⟨ofPlain?_eq_none (by omega), .inr ⟨ofHyphenated?_eq_none (by omega),
        .inl (ofBraced?_eq_some_iff.2 ⟨w, hw, rfl⟩)⟩⟩
    | @urn mark w hmark hw =>
      have hnine : mark.length = 9 := (List.length_map ..).symm.trans (congrArg List.length hmark)
      have hlen : (mark ++ hyphenate w).length =
        45 := by simp [length_hyphenate (length_of_spells hw), hnine]
      exact .inr ⟨ofPlain?_eq_none (by omega), .inr ⟨ofHyphenated?_eq_none (by omega),
        .inr ⟨ofBraced?_eq_none (by omega), ofUrn?_eq_some_iff.2 ⟨mark, w, hmark, hw, rfl⟩⟩⟩⟩

end ChatServer.Uuid

namespace ChatServer.Protocol

/-! ## Requests that differ in a spelling -/

/-- The command with another target, where it has one. -/
def Command.retarget (target : String) : Command → Command
  | createPublicRoom room => .createPublicRoom room
  | createMessage _ m => .createMessage target m
  | listMessages _ => .listMessages target
  | joinPublicRoom _ => .joinPublicRoom target
  | leavePublicRoom _ => .leavePublicRoom target
  | unknown tag => .unknown tag

/-- Two envelopes ask for the same, and their targets are spellings of one
identifier. -/
structure Respelled (id : Uuid) (e e' : Inbound) : Prop where
  tag : e'.tag = e.tag
  content : e'.content = e.content
  target : Uuid.parse? e.target = some id
  target' : Uuid.parse? e'.target = some id

theorem command_retarget {e e' : Inbound} (htag : e'.tag = e.tag)
    (hcontent : e'.content = e.content) :
    e'.command = e.command.map (Command.retarget e'.target) := by
  unfold Inbound.command Inbound.contentAs
  rw [htag, hcontent]
  cases ActionTag.ofName? e.tag with
  | none => rfl
  | some tag =>
    cases tag with
    | createPublicRoom => cases RoomRequest.codec.ofValue e.content <;> rfl
    | createMessage => cases MessageRequest.codec.ofValue e.content <;> rfl
    | _ => rfl

end ChatServer.Protocol

namespace ChatServer.Action

open Delivery Protocol Store Time

section
variable {s : Session} {now : Instant} {id : Uuid} {e e' : Inbound} {command : Command}

/-- A target plays no part in what is done but for the channel that it names. -/
theorem handle_respelled (h : Respelled id e e') (hasks : Asks e command) :
    handle s now (command.retarget e'.target) = handle s now command := by
  have htarget : targetChannel e'.target = targetChannel e.target := by
    rw [targetChannel_eq_ok_iff.2 h.target, targetChannel_eq_ok_iff.2 h.target']
  cases hasks with
  | createPublicRoom => rfl
  | createMessage => simp only [Command.retarget, handle, createMessage, htarget]
  | listMessages => simp only [Command.retarget, handle, listMessages, htarget]
  | joinPublicRoom => simp only [Command.retarget, handle, joinRoom, htarget]
  | leavePublicRoom => simp only [Command.retarget, handle, leaveRoom, htarget]

/-- A command other than for a room is about the channel that the target
names. -/
theorem Asks.channel?_eq (h : Asks e command) (hroom : e.tag ≠ ActionTag.createPublicRoom.name) :
    command.channel? = Uuid.parse? e.target := by
  cases h with
  | createPublicRoom htag _ => exact absurd htag hroom
  | _ => rfl

/-- A success is no error, and one that is about a channel names it in the
written form. -/
def WrittenForm (id : Uuid) (e : Inbound) (outcome : Outcome) : Prop :=
  ∀ reply, outcome = .ok reply → reply.errorCode? = none ∧
    (e.tag ≠ ActionTag.createPublicRoom.name → reply.envelope.targetId = id.text)

theorem writtenForm_error (r : Refusal) : WrittenForm id e (.error r) := by
  intro reply h
  cases h

theorem Late.writtenForm {outcome : Outcome} (h : Late command.channel? outcome)
    (hasks : Asks e command) (hid : Uuid.parse? e.target = some id) : WrittenForm id e outcome := by
  rintro reply rfl
  cases h with
  | replied hcode htarget =>
    refine ⟨hcode, fun hroom => htarget id ?_⟩
    rw [hasks.channel?_eq hroom, hid]
    exact Option.mem_some_self id

end

/-- Frames that differ in a spelling are carried out by one plan, and only what
it ends in is told in other words. -/
theorem respond_plan {id : Uuid} {text text' : String} {e e' : Inbound}
    (hparse : Inbound.parse text = .ok e)
    (hparse' : Inbound.parse text' = .ok e') (h : Respelled id e e') (s : Session) (now : Instant) :
    ∃ plan : Plan Outcome, plan.Always (WrittenForm id e) ∧
      respond s now text = plan.map (conclude s e) ∧
      respond s now text' = plan.map (conclude s e') := by
  have hcommands := command_retarget h.tag h.content
  cases hcommand : e.command with
  | error f =>
    rw [hcommand] at hcommands
    refine ⟨.done (.error (.undecoded f)), Plan.always_done (writtenForm_error _), ?_, ?_⟩
    · simp only [respond, hparse, hcommand, Plan.map]
    · simp only [respond, hparse', hcommands, Except.map, Plan.map]
  | ok command =>
    rw [hcommand] at hcommands
    have hrespond' : respond s now text' = _ := respond_decoded hparse' hcommands
    rcases fault_or_asks hparse with ⟨-, hunknown⟩ | ⟨-, command', hcommand', hasks⟩
    · obtain rfl := hunknown command hcommand
      refine ⟨handle s now (.unknown e.tag), ?_, respond_decoded hparse hcommand, hrespond'⟩
      exact Plan.always_done (writtenForm_error _)
    · obtain rfl : command = command' := Except.ok.inj (hcommand.symm.trans hcommand')
      rw [handle_respelled h hasks] at hrespond'
      refine ⟨handle s now command, ?_, respond_decoded hparse hcommand, hrespond'⟩
      cases handle_sight s hasks with
      | atSight r _ hplan =>
        rw [hplan now]
        exact Plan.always_done (writtenForm_error r)
      | asksFirst hplan =>
        exact fun outcome hend => ((hplan now).late outcome hend).writtenForm hasks h.target

/-! ## Frames -/

/-- What two frames come to that ask for the same of the channel `id`, each in
its own spelling. -/
structure SpeltAlike (id : Uuid) (e e' : Inbound) (answered answered' : Reply × Database) :
    Prop where
  store : answered'.2 = answered.2
  audience : answered'.1.audience = answered.1.audience
  /-- A success is the same for both, -/
  success : answered.1.errorCode? = none → answered'.1 = answered.1
  /-- and where it is about the channel it has the form that the server
  writes. -/
  written : answered.1.errorCode? = none → e.tag ≠ ActionTag.createPublicRoom.name →
    answered.1.envelope.targetId = id.text
  /-- An error is the same but for the target, which is given back as it was
  sent. -/
  refusal : answered.1.errorCode? ≠ none → answered.1.envelope.targetId = e.target ∧
    answered'.1 = { answered.1 with envelope := { answered.1.envelope with targetId := e'.target } }

theorem speltAlike_conclude {id : Uuid} {e e' : Inbound} (h : Respelled id e e') (s : Session)
    {outcome : Outcome} (houtcome : WrittenForm id e outcome) (after : Database) :
    SpeltAlike id e e' (conclude s e outcome, after) (conclude s e' outcome, after) := by
  cases outcome with
  | ok reply =>
    obtain ⟨hcode, hwritten⟩ := houtcome reply rfl
    exact ⟨rfl, rfl, fun _ => rfl, fun _ => hwritten, fun hnot => absurd hcode hnot⟩
  | error r =>
    refine ⟨rfl, rfl, nofun, nofun, fun _ => ⟨rfl, ?_⟩⟩
    simp only [conclude, Reply.refuse, Envelope.ofError, h.tag]

/-- **The spelling of a channel's identifier does not matter.** Two frames that
ask for the same, with targets that are read as one identifier, leave the same
store and are answered to the same sessions with the same reply, which has the
identifier as the server writes it; but an error gives back the target as it was
sent. The texts that are read as the identifier are its spellings, and the one
that the server writes is read back, from a row of the tables, too. -/
theorem respond_respelled {id : Uuid} {text text' : String} {e e' : Inbound}
    (hparse : Inbound.parse text = .ok e)
    (hparse' : Inbound.parse text' = .ok e') (h : Respelled id e e') (s : Session) (now : Instant)
    (d : Draw) (db : Database) :
    SpeltAlike id e e' ((respond s now text).run d db) ((respond s now text').run d db) ∧
    (∀ target, Uuid.parse? target = some id ↔ id.Spelling target.toList) ∧
    readId id.text = .ok id := by
  refine ⟨?_, fun target => Uuid.parse?_eq_some_iff, readId_text id⟩
  obtain ⟨plan, hplan, hrespond, hrespond'⟩ := respond_plan hparse hparse' h s now
  rw [hrespond, hrespond', Plan.run_map, Plan.run_map]
  exact speltAlike_conclude h s (hplan _ (plan.mayEnd_run d db)) _

def sampleJoinUrn : String :=
  "\x7b\"action_tag\":\"JOIN_PUBLIC_ROOM\"," ++
    "\"target_id\":\"URN:uuid:00000000-0000-0000-0000-000000000002\"\x7d"

theorem respond_respelled_sample :
    let e : Inbound := ⟨"JOIN_PUBLIC_ROOM", some "00000000-0000-0000-0000-000000000002",
      none, .null⟩
    let e' : Inbound := { e with targetId := some "URN:uuid:00000000-0000-0000-0000-000000000002" }
    Inbound.parse sampleJoin = .ok e ∧ Inbound.parse sampleJoinUrn = .ok e' ∧
      Respelled (sampleId 2) e e' ∧
    SpeltAlike (sampleId 2) e e'
      ((respond sampleSession sampleNoon sampleJoin).run (sampleDraw 5) (Database.empty.run sampleSteps))
      ((respond sampleSession sampleNoon sampleJoinUrn).run (sampleDraw 5)
        (Database.empty.run sampleSteps)) := by
  intro e e'
  have hparse : Inbound.parse sampleJoin = .ok e := rfl
  have hparse' : Inbound.parse sampleJoinUrn = .ok e' := rfl
  have h : Respelled (sampleId 2) e e' := ⟨rfl, rfl, by decide +kernel, by decide +kernel⟩
  exact ⟨hparse, hparse', h, (respond_respelled hparse hparse' h sampleSession sampleNoon (sampleDraw 5)
    (Database.empty.run sampleSteps)).1⟩

end ChatServer.Action

