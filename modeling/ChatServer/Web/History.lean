import ChatServer.Text.Integer
import ChatServer.Web.Accounts
import ChatServer.Web.Address

/-!
# Channel routes

Listing the channels, and reading the messages of one page by page. A page has
at least one message and at most 200, whatever is asked for, and 50 when nothing
is.

* `clampLimit_mem`: no page is asked of the store that is empty or too long.
-/
namespace ChatServer.Web

open Json Store Text

structure PageQuery where
  limit : Nat
  before : Option Uuid
deriving DecidableEq

/-- The page that is meant when nothing is asked for. -/
def PageQuery.default : PageQuery := ⟨50, none⟩

inductive QueryFault
  | repeated
  | limit (f : Integer.Fault)
  | before
deriving DecidableEq

/-- The one value of a field that may be left out. -/
def fieldOnce? (fields : List (String × String)) (name : String) :
    Except QueryFault (Option String) :=
  match fields.filter (·.1 = name) with
  | [] => .ok none
  | [(_, value)] => .ok (some value)
  | _ => .error .repeated

/-- Reads the fields of a query; those of other names have no part in it. -/
def readQuery (fields : List (String × String)) : Except QueryFault PageQuery := do
  let limit ←
    match ← fieldOnce? fields "limit" with
    | none => .ok PageQuery.default.limit
    | some text => ((Integer.read (.unsigned 32) text.toList).map Int.toNat).mapError .limit
  let before ←
    match ← fieldOnce? fields "before" with
    | none => .ok none
    | some text =>
      match Uuid.parse? text with
      | none => .error .before
      | some id => .ok (some id)
  return ⟨limit, before⟩

def longestPage : Nat := 200

/-- Brings the length of a page into its bounds. A length that is out of them is
not an error. -/
def clampLimit (n : Nat) : Nat := max 1 (min n longestPage)

def listChannels : AnswerPlan :=
  .ask .listChannels fun
    | .error _ => status 500
    | .ok channels => .done (.ok (.json (Channel.codec.list.write channels)))

def readPage (channelId : Uuid) (q : PageQuery) : AnswerPlan :=
  .ask (.getChannel channelId) fun
    | .error _ => status 500
    | .ok none => status 404
    | .ok (some _) =>
      .ask (.listMessages channelId (clampLimit q.limit) q.before) fun
        | .error _ => status 500
        | .ok messages => .done (.ok (.json (Message.codec.list.write messages)))

/-- Reads the page that a path and a query ask for. Whether the channel is there
is looked at last, so a query that cannot be read is refused for any channel. -/
def readHistory (segment query : List Char) : AnswerPlan :=
  match (Address.segmentText? segment).bind Uuid.parse? with
  | none => status 400
  | some channelId =>
    match readQuery (Address.fields query) with
    | .error _ => status 400
    | .ok q => readPage channelId q

theorem clampLimit_mem (n : Nat) : 1 ≤ clampLimit n ∧ clampLimit n ≤ longestPage := by
  simp only [clampLimit, longestPage]
  omega

end ChatServer.Web

