/-!
# UTF-8

The bytes of texts, read by a machine that takes one byte at a time. Between
bytes it is either at the start of a character or owed some more bytes of one,
with bounds on the next, which rule out overlong forms, surrogates and numbers
above the last character. So it can be told of a part of a text whether more
bytes can still make it one.

* `length_le_byteLength`: no text has fewer bytes than characters.
-/
namespace ChatServer.Text.Utf8

inductive State
  | start
  /-- Inside a character: bytes owed, bounds on the next of them, and the number
  read so far. -/
  | owing (more low high value : Nat)
deriving DecidableEq

/-- Takes the first byte of a character. -/
def lead (b : Nat) : Option (State × List Char) :=
  if b < 0x80 then some (.start, [Char.ofNat b])
  else if b < 0xC2 then none
  else if b < 0xE0 then some (.owing 1 0x80 0xBF (b - 0xC0), [])
  else if b = 0xE0 then some (.owing 2 0xA0 0xBF 0, [])
  else if b = 0xED then some (.owing 2 0x80 0x9F 0xD, [])
  else if b < 0xF0 then some (.owing 2 0x80 0xBF (b - 0xE0), [])
  else if b = 0xF0 then some (.owing 3 0x90 0xBF 0, [])
  else if b < 0xF4 then some (.owing 3 0x80 0xBF (b - 0xF0), [])
  else if b = 0xF4 then some (.owing 3 0x80 0x8F 4, [])
  else none

/-- Takes one byte; gives the character that it completes. No result for a byte
that cannot stand there. -/
def feed : State → UInt8 → Option (State × List Char)
  | .start, b => lead b.toNat
  | .owing more low high value, b =>
    if low ≤ b.toNat ∧ b.toNat ≤ high then
      let value := value * 0x40 + (b.toNat - 0x80)
      if more ≤ 1 then some (.start, [Char.ofNat value])
      else some (.owing (more - 1) 0x80 0xBF value, [])
    else none

def feedAll : State → List UInt8 → Option (State × List Char)
  | s, [] => some (s, [])
  | s, b :: bs => do
    let (s, cs) ← feed s b
    let (s, rest) ← feedAll s bs
    return (s, cs ++ rest)

/-- The text of some bytes, if they are one. -/
def decode? (bs : List UInt8) : Option String :=
  match feedAll .start bs with
  | some (.start, cs) => some (String.ofList cs)
  | _ => none

/-- The bytes are the start of a text: what is there is well formed, but its
last character may be unfinished. -/
def canContinue (bs : List UInt8) : Bool := (feedAll .start bs).isSome

def encode (s : String) : List UInt8 := s.toUTF8.toList

/-- The count of bytes of a text. -/
def byteLength (cs : List Char) : Nat := cs.foldl (fun n c => n + c.utf8Size) 0

/-- Every character takes a byte at least. -/
theorem length_le_byteLength (cs : List Char) : cs.length ≤ byteLength cs := by
  have grown : ∀ n, n + cs.length ≤ cs.foldl (fun n c => n + c.utf8Size) n := by
    induction cs with
    | nil => exact Nat.le_refl
    | cons c cs ih =>
      intro n
      have := Char.utf8Size_pos c
      have := ih (n + c.utf8Size)
      simp only [List.foldl_cons, List.length_cons]
      omega
  simpa only [byteLength, Nat.zero_add] using grown 0

end ChatServer.Text.Utf8

