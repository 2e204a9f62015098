import ChatServer.Account.Records
import ChatServer.Model.User
import ChatServer.Proofs.Frames
import ChatServer.Proofs.JsonFields

/-!
# All that is written is read back

Every record of the server has a codec that reads what it writes: identifiers,
times and names stand for themselves as strings, numbers are within their
limits, and records, options and lists are made of these. An envelope says of
its content only which members it has, so it is read back by those who know from
the tag what kind of content to expect.

* `reads_optional`, `reads_list`, `reads_choice`: options, lists and choices of
  what is read back.
* `ContentKind.read_encode`: a content is read back as one of its kind.
* `read_back`: the law for every record, and for envelopes.
-/
namespace ChatServer.Json

open ChatServer.Text ChatServer.Time

variable {α β : Type} {depth : Nat}

/-- The codec reads what it writes of a value. -/
def Codec.ReadsBack (c : Codec α) (depth : Nat) (x : α) : Prop := c.Reads depth (c.encode x) x

theorem Codec.ReadsBack.parse_write {c : Codec α} {x : α} (h : c.ReadsBack depthLimit x) :
    c.parse (c.write x) = .ok x :=
  Codec.Reads.parse h

/-- A change of representation that loses nothing. -/
theorem Codec.ReadsBack.map {c : Codec α} {into : α → β} {back : β → α} {y : β}
    (h : c.ReadsBack depth (back y))
    (hinto : into (back y) = y) : (c.map into back).ReadsBack depth y := by
  have hread := Codec.Reads.map h into back
  rw [hinto] at hread
  exact hread

/-! ## Scalars -/

theorem reads_text (s : String) : Codec.text.ReadsBack depth s := reads_ofString rfl

theorem reads_uuid (id : Uuid) : Codec.uuid.ReadsBack depth id :=
    reads_ofString (by rw [Uuid.parse?_text])

theorem reads_instant (t : Instant) : Codec.instant.ReadsBack depth t := by
  have hread : Instant.parse t.short =
    .ok t := by simp [Instant.parse, Instant.short, readSubmitted_shortChars]
  exact reads_ofString (by rw [hread])

theorem reads_timestamp (t : Timestamp) : Codec.timestamp.ReadsBack depth t :=
  reads_ofString (by rw [Timestamp.parse_text])

/-- A choice is read back if its name stands in the table for it. -/
theorem reads_choice {table : List (String × α)} {name : α → String} {x : α}
    (h : table.lookup (name x) = some x) :
    (Codec.choice table name).ReadsBack depth x := by
  intro rest _
  have hread := readString_escaped (name x) rest
  simp [Codec.choice, Value.chars, stringChars,
    skipBlanks_of_not_blank (show isBlank '"' = false from rfl), hread,
    named, h, bind, Except.bind]

/-! ## Options and lists -/

/-- An option is read back if what it may hold is written as a string and is
read back. -/
theorem reads_optional {c : Codec α} {toText : α → String}
    (hstring : ∀ x, c.encode x = .string (toText x))
    (h : ∀ x, c.ReadsBack depth x) (x : Option α) : c.optional.ReadsBack depth x := by
  intro rest hr
  cases x with
  | none => rfl
  | some x =>
    have hread := h x rest hr
    obtain ⟨cs, hcs⟩ : ∃ cs, (c.encode x).chars ++ rest = '"' :: cs := ⟨_, by rw [hstring]; rfl⟩
    show c.optional.read depth ((c.encode x).chars ++ rest) = _
    rw [hcs] at hread ⊢
    simp [Codec.optional, skipBlanks_of_not_blank (show isBlank '"' = false from rfl), hread, bind,
      Except.bind]

/-- A list is read back if its items are. -/
theorem reads_list {c : Codec α} {xs : List α} (hfits : ∀ x ∈ xs, Fits (depth + 1) (c.encode x))
    (h : ∀ x ∈ xs, c.ReadsBack (depth + 1) x) : c.list.ReadsBack (depth + 2) xs := by
  intro rest _
  have hread : readList (c.read (depth + 1)) (Value.itemsChars (xs.map c.encode) ++ ']' :: rest) =
      .ok (xs, rest) :=
    readList_written (fun x hx => (hfits x hx).begins) (fun x hx rest hr => h x hx rest hr) rest
  have hchars : (c.list.encode xs).chars ++ rest =
      '[' :: (Value.itemsChars (xs.map c.encode) ++ ']' :: rest) := by
    show (Value.array (xs.map c.encode)).chars ++ rest = _
    rw [Value.chars]
    simp
  rw [hchars]
  simp only [Codec.list, skipBlanks_of_not_blank (show isBlank '[' = false from rfl)]
  rw [if_neg (by omega)]
  exact hread

theorem reads_optional_instant (t : Option Instant) : Codec.instant.optional.ReadsBack depth t :=
  reads_optional (fun _ => rfl) reads_instant t

/-! ## Records -/

/-- A record carried along a change of representation is read back, if its
fields are. -/
theorem reads_fields {ts : List Type} {name : String} {fields : Fields ts} {into : Tuple ts → β}
    {back : β → Tuple ts}
    {y : β} (hnames : fields.names.Nodup) (h : fields.Reads (depth + 1) (back y))
    (hinto : into (back y) = y) :
    ((Codec.record name fields).map into back).ReadsBack (depth + 2) y :=
  Codec.ReadsBack.map (reads_encode hnames h) hinto

end ChatServer.Json

namespace ChatServer

open Json

variable {depth : Nat}

theorem User.readsBack (u : User) : User.codec.ReadsBack (depth + 2) u :=
  reads_fields (by decide) ⟨reads_uuid _, reads_text _, reads_instant _, trivial⟩ rfl

theorem ChannelKind.readsBack (k : ChannelKind) : ChannelKind.codec.ReadsBack depth k :=
  reads_choice (ChannelKind.ofName?_name k)

theorem Channel.readsBack (c : Channel) : Channel.codec.ReadsBack (depth + 2) c :=
  reads_fields (by decide) ⟨reads_uuid _, ChannelKind.readsBack _, reads_text _, reads_uuid _,
    reads_instant _,
    reads_optional_instant _, trivial⟩ rfl

theorem Message.readsBack (m : Message) : Message.codec.ReadsBack (depth + 2) m :=
  reads_fields (by decide) ⟨reads_uuid _, reads_uuid _, reads_uuid _, reads_uuid _, reads_text _,
    reads_timestamp _,
    reads_optional_instant _, trivial⟩ rfl

namespace Protocol

theorem ActionTag.readsBack (t : ActionTag) : ActionTag.codec.ReadsBack depth t :=
  reads_choice (ActionTag.ofName?_name t)

theorem RoomContent.readsBack (r : RoomContent) : RoomContent.codec.ReadsBack (depth + 2) r :=
  reads_fields (by decide) ⟨reads_uuid _, ChannelKind.readsBack _, reads_text _, reads_uuid _,
    reads_instant _,
    reads_optional_instant _, trivial⟩ rfl

theorem MessageContent.readsBack (m : MessageContent) :
    MessageContent.codec.ReadsBack (depth + 2) m :=
  reads_fields (by decide) ⟨reads_uuid _, reads_uuid _, reads_text _, reads_timestamp _,
    reads_optional_instant _,
    trivial⟩ rfl

theorem MessagesContent.readsBack (c : MessagesContent) :
    MessagesContent.codec.ReadsBack (depth + 4) c :=
  reads_fields (by decide) ⟨reads_list (fun m _ => m.fits) fun m _ => m.readsBack, trivial⟩ rfl

theorem MemberContent.readsBack (m : MemberContent) : MemberContent.codec.ReadsBack (depth + 2) m :=
  reads_fields (by decide) ⟨reads_uuid _, reads_text _, trivial⟩ rfl

theorem ErrorCode.readsBack (c : ErrorCode) : ErrorCode.codec.ReadsBack depth c :=
  reads_choice (by cases c <;> decide)

theorem ErrorContent.readsBack (e : ErrorContent) : ErrorContent.codec.ReadsBack (depth + 2) e :=
  reads_fields (by decide) ⟨ErrorCode.readsBack _, reads_text _,
    reads_optional (fun _ => rfl) reads_text _, trivial⟩
    rfl

end Protocol

namespace Account

theorem Claims.readsBack {c : Claims} (h : c.expiry ≤ wordLimit) :
    Claims.codec.ReadsBack (depth + 2) c :=
  reads_fields (by decide) ⟨reads_uuid _, reads_text _, reads_number h (Nat.le_refl _), trivial⟩ rfl

theorem UserResponse.readsBack (r : UserResponse) : UserResponse.codec.ReadsBack (depth + 2) r :=
  reads_fields (by decide) ⟨reads_uuid _, reads_text _, trivial⟩ rfl

theorem InfoResponse.readsBack {r : InfoResponse} (h : r.protocolVersion ≤ 0xffff) :
    InfoResponse.codec.ReadsBack (depth + 3) r :=
  reads_fields (by decide) ⟨reads_text _, reads_number h (by decide),
    reads_list (fun s _ => .string s) fun s _ => reads_text s, trivial⟩ rfl

end Account

/-! ## Envelopes -/

namespace Protocol

inductive ContentKind
  | room
  | message
  | messages
  | member
  | error
deriving DecidableEq

def Content.kind : Content → ContentKind
  | room _ => .room
  | message _ => .message
  | messages _ => .messages
  | member _ => .member
  | error _ => .error

/-- Reads a content of a kind. -/
def ContentKind.read (text : String) : ContentKind → Except ParseError Content
  | room => (RoomContent.codec.parse text).map .room
  | message => (MessageContent.codec.parse text).map .message
  | messages => (MessagesContent.codec.parse text).map .messages
  | member => (MemberContent.codec.parse text).map .member
  | error => (ErrorContent.codec.parse text).map .error

/-- A content is read back by those who expect its kind. -/
theorem ContentKind.read_encode (c : Content) : c.kind.read c.encode.text = .ok c := by
  cases c with
  | room r =>
    have hread : RoomContent.codec.parse (RoomContent.codec.encode r).text = .ok r :=
      r.readsBack.parse_write
    rw [Content.encode, Content.kind, read, hread]
    rfl
  | message m =>
    have hread : MessageContent.codec.parse (MessageContent.codec.encode m).text = .ok m :=
      m.readsBack.parse_write
    rw [Content.encode, Content.kind, read, hread]
    rfl
  | messages ms =>
    have hread : MessagesContent.codec.parse (MessagesContent.codec.encode ms).text = .ok ms :=
      ms.readsBack.parse_write
    rw [Content.encode, Content.kind, read, hread]
    rfl
  | member m =>
    have hread : MemberContent.codec.parse (MemberContent.codec.encode m).text = .ok m :=
      m.readsBack.parse_write
    rw [Content.encode, Content.kind, read, hread]
    rfl
  | error e =>
    have hread : ErrorContent.codec.parse (ErrorContent.codec.encode e).text = .ok e :=
      e.readsBack.parse_write
    rw [Content.encode, Content.kind, read, hread]
    rfl

/-- Contents of one kind that are written alike are the same. -/
theorem Content.encode_inj {a b : Content} (hkind : a.kind = b.kind) (h : a.encode = b.encode) :
    a = b := by
  have ha := ContentKind.read_encode a
  rw [hkind, h, ContentKind.read_encode b] at ha
  exact (Except.ok.inj ha).symm

/-- Envelopes with contents of one kind that have one text are the same. -/
theorem Envelope.text_inj {a b : Envelope} (hkind : a.content.kind = b.content.kind)
    (h : a.text = b.text) : a = b := by
  have hparse := a.parse_text
  rw [h, b.parse_text, Except.ok.injEq, encode_eq, encode_eq] at hparse
  simp only [Value.object.injEq, List.cons.injEq, Prod.mk.injEq, Value.string.injEq, true_and,
    and_true] at hparse
  obtain ⟨htag, htarget, hsender, hcontent⟩ := hparse
  have htag : a.tag = b.tag := ActionTag.name_inj.1 htag.symm
  have hsender : a.senderId = b.senderId := Uuid.text_injective hsender.symm
  have hcontent : a.content = b.content := Content.encode_inj hkind hcontent.symm
  cases a
  cases b
  simp_all only

end Protocol

/-! ## The law -/

open Account Protocol Time

/-- What is written as JSON is read back as it was. -/
structure ReadBack : Prop where
  user : ∀ u : User, User.codec.parse (User.codec.write u) = .ok u
  channel : ∀ c : Channel, Channel.codec.parse (Channel.codec.write c) = .ok c
  message : ∀ m : Message, Message.codec.parse (Message.codec.write m) = .ok m
  timestamp : ∀ t : Timestamp, Codec.timestamp.parse (Codec.timestamp.write t) = .ok t
  tag : ∀ t : ActionTag, ActionTag.codec.parse (ActionTag.codec.write t) = .ok t
  roomContent : ∀ r : RoomContent, RoomContent.codec.parse (RoomContent.codec.write r) = .ok r
  messageContent : ∀ m : MessageContent,
    MessageContent.codec.parse (MessageContent.codec.write m) = .ok m
  messagesContent : ∀ ms : MessagesContent,
    MessagesContent.codec.parse (MessagesContent.codec.write ms) = .ok ms
  memberContent : ∀ m : MemberContent,
    MemberContent.codec.parse (MemberContent.codec.write m) = .ok m
  errorContent : ∀ e : ErrorContent, ErrorContent.codec.parse (ErrorContent.codec.write e) = .ok e
  userResponse : ∀ r : UserResponse, UserResponse.codec.parse (UserResponse.codec.write r) = .ok r
  /-- Claims hold a time of 64 bits, -/
  claims : ∀ c : Claims, c.expiry ≤ wordLimit → Claims.codec.parse (Claims.codec.write c) = .ok c
  /-- and the server's information a version of 16 bits. -/
  info : ∀ r : InfoResponse, r.protocolVersion ≤ 0xffff →
    InfoResponse.codec.parse (InfoResponse.codec.write r) = .ok r
  /-- The text of an envelope is one object of exactly four members, -/
  envelope : ∀ e : Envelope, Codec.verbatim.parse e.text =
    .ok (.object [("action_tag", .string e.tag.name), ("target_id", .string e.targetId),
      ("sender_id", .string e.senderId.text), ("content", e.content.encode)])
  /-- each of which says what the envelope does; -/
  members : ∀ e : Envelope, ActionTag.ofName? e.tag.name = some e.tag ∧
    Uuid.parse? e.senderId.text = some e.senderId ∧ e.content.kind.read e.content.encode.text =
      .ok e.content
  /-- so two envelopes of contents of one kind have different texts. -/
  distinct : ∀ a b : Envelope, a.content.kind = b.content.kind → a ≠ b → a.text ≠ b.text

/-- **All that is written is read back**, whatever its texts hold. -/
theorem read_back : ReadBack where
  user u := u.readsBack.parse_write
  channel c := c.readsBack.parse_write
  message m := m.readsBack.parse_write
  timestamp t := (reads_timestamp t).parse_write
  tag t := t.readsBack.parse_write
  roomContent r := r.readsBack.parse_write
  messageContent m := m.readsBack.parse_write
  messagesContent ms := ms.readsBack.parse_write
  memberContent m := m.readsBack.parse_write
  errorContent e := e.readsBack.parse_write
  userResponse r := r.readsBack.parse_write
  claims _ h := (Claims.readsBack h).parse_write
  info _ h := (InfoResponse.readsBack h).parse_write
  envelope e := e.parse_text
  members e := ⟨ActionTag.ofName?_name e.tag, Uuid.parse?_text e.senderId,
    ContentKind.read_encode e.content⟩
  distinct _ _ hkind hne htext := hne (Envelope.text_inj hkind htext)

/-- A text with a quote, a backslash, a line break, a control character and
letters beyond ASCII. -/
example : MemberContent.codec.write ⟨.ofNat 7, "\"\\\n\u0001é"⟩ =
    "\x7b\"user_id\":\"00000000-0000-0000-0000-000000000007\"," ++
      "\"email\":\"\\\"\\\\\\n\\u0001é\"\x7d" := by
  decide +kernel

end ChatServer

