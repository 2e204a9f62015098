import ChatServer.Proofs.JsonText
import ChatServer.Protocol.Envelope

/-!
# What a frame says

A frame is the text of an envelope, and a client reads it as JSON. Contents are
objects whose members are texts, nulls and at most one list of such objects, so
every envelope fits the depth that readers allow, whatever its texts hold.

* `Content.fits`: contents nest brackets at most three deep.
* `Envelope.parse_text`: a frame is read as the envelope that it was made of.
* `senderOf?_text`: the session that a frame names is the one that its envelope
  names.
-/
namespace ChatServer.Protocol

open Json

/-! ## Contents -/

theorem fits_optional_instant {depth : Nat} (t : Option Time.Instant) :
    Fits (depth + 1) (Codec.instant.optional.encode t) := by
  cases t with
  | none => exact .null
  | some t => exact .string _

theorem fits_optional_text {depth : Nat} (s : Option String) :
    Fits (depth + 1) (Codec.text.optional.encode s) := by
  cases s with
  | none => exact .null
  | some s => exact .string _

theorem fits_message {depth : Nat} (m : Message) : Fits (depth + 2) (Message.codec.encode m) :=
  AllFit.object <| .cons (.string _) <| .cons (.string _) <| .cons (.string _) <|
    .cons (.string _) <|
    .cons (.string _) <| .cons (.string _) <| .cons (fits_optional_instant m.updatedAt) allFit_nil

theorem RoomContent.fits {depth : Nat} (r : RoomContent) :
    Fits (depth + 2) (RoomContent.codec.encode r) :=
  AllFit.object <| .cons (.string _) <| .cons (.string _) <| .cons (.string _) <|
    .cons (.string _) <|
    .cons (.string _) <| .cons (fits_optional_instant r.updated) allFit_nil

theorem MessageContent.fits {depth : Nat} (m : MessageContent) :
    Fits (depth + 2) (MessageContent.codec.encode m) :=
  AllFit.object <| .cons (.string _) <| .cons (.string _) <| .cons (.string _) <|
    .cons (.string _) <|
    .cons (fits_optional_instant m.updatedAt) allFit_nil

theorem MessagesContent.fits {depth : Nat} (c : MessagesContent) :
    Fits (depth + 4) (MessagesContent.codec.encode c) := by
  refine AllFit.object <| .cons (.array fun v hv => ?_) allFit_nil
  obtain ⟨m, -, rfl⟩ := List.mem_map.1 hv
  exact m.fits

theorem MemberContent.fits {depth : Nat} (m : MemberContent) :
    Fits (depth + 2) (MemberContent.codec.encode m) :=
  AllFit.object <| .cons (.string _) <| .cons (.string _) allFit_nil

theorem ErrorContent.fits {depth : Nat} (e : ErrorContent) :
    Fits (depth + 2) (ErrorContent.codec.encode e) :=
  AllFit.object <| .cons (.string _) <| .cons (.string _) <|
    .cons (fits_optional_text e.requestActionTag)
    allFit_nil

theorem Content.fits {depth : Nat} (c : Content) : Fits (depth + 4) c.encode := by
  cases c with
  | room r => exact r.fits
  | message m => exact m.fits
  | messages ms => exact ms.fits
  | member m => exact m.fits
  | error e => exact e.fits

/-! ## Envelopes -/

theorem Envelope.fits {depth : Nat} (e : Envelope) : Fits (depth + 5) e.encode :=
  AllFit.object <| .cons (.string _) <| .cons (.string _) <| .cons (.string _) <|
    .cons e.content.fits allFit_nil

/-- **A frame is read as its envelope.** -/
theorem Envelope.parse_text (e : Envelope) : Codec.verbatim.parse e.text = .ok e.encode :=
  Json.parse_text (e.fits : Fits (123 + 5) e.encode)

/-- The session that a frame names as its sender. -/
def senderOf? (frame : String) : Option String :=
  match Codec.verbatim.parse frame with
  | .ok (.object members) =>
    match members.lookup "sender_id" with
    | some (.string id) => some id
    | _ => none
  | _ => none

theorem senderOf?_text (e : Envelope) : senderOf? e.text = some e.senderId.text := by
  rw [senderOf?, e.parse_text]
  rfl

end ChatServer.Protocol

