import ChatServer.Text.Hex
import ChatServer.Text.Utf8

/-!
# Addresses

The target of a request: a path, and behind a question mark a query of fields. A
scheme and a host may stand in front of the path. Percent escapes stand for
bytes, and a plus sign in a query for a space. A percent sign without two digits
behind it stands for itself.

* `unescape_plain`: bytes without percent signs stay as they are.
-/
namespace ChatServer.Web.Address

open Text

def percent : UInt8 := 0x25

def digit? (b : UInt8) : Option Nat := (Hex.value? (Char.ofNat b.toNat)).map Fin.val

/-- Replaces percent escapes by the bytes they stand for. -/
def unescape : List UInt8 → List UInt8
  | a :: b :: c :: rest =>
    if a = percent then
      match digit? b, digit? c with
      | some x, some y => UInt8.ofNat (x * 16 + y) :: unescape rest
      | _, _ => a :: unescape (b :: c :: rest)
    else a :: unescape (b :: c :: rest)
  | bytes => bytes

def splitAll (mark : Char) (cs : List Char) : List (List Char) :=
  cs.foldr (fun c fields =>
    match fields with
    | [] => [[c]]
    | field :: rest => if c = mark then [] :: field :: rest else (c :: field) :: rest) [[]]

/-- Splits at the first mark. -/
def splitFirst (mark : Char) (cs : List Char) : List Char × List Char :=
  (cs.takeWhile (· ≠ mark), (cs.dropWhile (· ≠ mark)).drop 1)

/-- The parts of a path that follow slashes. -/
def segments (path : List Char) : List (List Char) := (splitAll '/' path).drop 1

def isSchemeChar (c : Char) : Bool := c.isAlphanum || c == '+' || c == '-' || c == '.'

def endsHost (c : Char) : Bool := c == '/' || c == '?' || c == '#'

/-- A target without scheme and host. -/
def localPart (target : List Char) : List Char :=
  match target.dropWhile isSchemeChar with
  | ':' :: '/' :: '/' :: rest => rest.dropWhile (!endsHost ·)
  | _ => target

/-- The path and the query of a target, without a fragment. -/
def parts (target : String) : List Char × List Char :=
  splitFirst '?' ((localPart target.toList).takeWhile (· ≠ '#'))

def segmentText? (cs : List Char) : Option String :=
  Utf8.decode? (unescape (Utf8.encode (String.ofList cs)))

/-- The name or value of a field. What is no text becomes a mark that no name or
value admits. -/
def fieldText (cs : List Char) : String :=
  let spaced := cs.map fun c => if c = '+' then ' ' else c
  (segmentText? spaced).getD "\ufffd"

def fields (query : List Char) : List (String × String) :=
  ((splitAll '&' query).filter (!·.isEmpty)).map fun field =>
    let (name, value) := splitFirst '=' field
    (fieldText name, fieldText value)

theorem unescape_plain {bytes : List UInt8} (h : percent ∉ bytes) : unescape bytes = bytes := by
  fun_induction unescape bytes with
  | case1 b c rest x y hx hy ih => simp at h
  | case2 b c rest hd ih => simp at h
  | case3 a b c rest ha ih => rw [ih (fun hm => h (List.mem_cons_of_mem _ hm))]
  | case4 => rfl

end ChatServer.Web.Address

