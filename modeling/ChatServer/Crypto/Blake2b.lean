/-!
# BLAKE2b

The hash of a message of bytes, in as many bytes as are asked for, up to 64. The
message is cut into blocks of sixteen words, the last of them filled up with
zeros. Each block is mixed into eight words of state in twelve rounds, together
with the count of bytes so far and a mark for the last block.
-/
namespace ChatServer.Crypto.Blake2b

/-- The words that the state begins with. -/
def start : Array UInt64 :=
  #[0x6a09e667f3bcc908, 0xbb67ae8584caa73b, 0x3c6ef372fe94f82b, 0xa54ff53a5f1d36f1,
    0x510e527fade682d1, 0x9b05688c2b3e6c1f, 0x1f83d9abfb41bd6b, 0x5be0cd19137e2179]

/-- The orders in which the rounds take the words of a block. -/
def orders : List (Array Nat) :=
  [#[0, 1, 2, 3, 4, 5, 6, 7, 8, 9, 10, 11, 12, 13, 14, 15],
   #[14, 10, 4, 8, 9, 15, 13, 6, 1, 12, 0, 2, 11, 7, 5, 3],
   #[11, 8, 12, 0, 5, 2, 15, 13, 10, 14, 3, 6, 7, 1, 9, 4],
   #[7, 9, 3, 1, 13, 12, 11, 14, 2, 6, 5, 10, 4, 0, 15, 8],
   #[9, 0, 5, 7, 2, 4, 10, 15, 14, 1, 11, 12, 6, 8, 3, 13],
   #[2, 12, 6, 10, 0, 11, 8, 3, 4, 13, 7, 5, 15, 14, 1, 9],
   #[12, 5, 1, 15, 14, 13, 4, 10, 0, 7, 6, 3, 9, 2, 8, 11],
   #[13, 11, 7, 14, 12, 1, 3, 9, 5, 0, 15, 4, 8, 6, 2, 10],
   #[6, 15, 14, 9, 11, 3, 0, 8, 12, 2, 13, 7, 1, 4, 10, 5],
   #[10, 2, 8, 4, 7, 6, 1, 5, 15, 11, 9, 14, 3, 12, 13, 0],
   #[0, 1, 2, 3, 4, 5, 6, 7, 8, 9, 10, 11, 12, 13, 14, 15],
   #[14, 10, 4, 8, 9, 15, 13, 6, 1, 12, 0, 2, 11, 7, 5, 3]]

/-- The four words that each step of a round mixes: columns of a square, then
its diagonals. -/
def steps : List (Nat × Nat × Nat × Nat) :=
  [(0, 4, 8, 12), (1, 5, 9, 13), (2, 6, 10, 14), (3, 7, 11, 15),
   (0, 5, 10, 15), (1, 6, 11, 12), (2, 7, 8, 13), (3, 4, 9, 14)]

/-- Turns a word to the right. -/
@[inline] def rotate (x n : UInt64) : UInt64 := (x >>> n) ||| (x <<< (64 - n))

@[inline] def word (ws : Array UInt64) (i : Nat) : UInt64 := ws.getD i 0

/-- Mixes four words with two words of a block. -/
def mix (v : Array UInt64) (i j k l : Nat) (x y : UInt64) : Array UInt64 :=
  let a := word v i + word v j + x
  let d := rotate (word v l ^^^ a) 32
  let c := word v k + d
  let b := rotate (word v j ^^^ c) 24
  let a := a + b + y
  let d := rotate (d ^^^ a) 16
  let c := c + d
  let b := rotate (b ^^^ c) 63
  (((v.setIfInBounds i a).setIfInBounds j b).setIfInBounds k c).setIfInBounds l d

def round (block : Array UInt64) (v : Array UInt64) (order : Array Nat) : Array UInt64 :=
  steps.zipIdx.foldl (fun v ((i, j, k, l), n) =>
    mix v i j k l (word block (order.getD (2 * n) 0)) (word block (order.getD (2 * n + 1) 0))) v

/-- Mixes a block into the state. `count` is the count of bytes of the message
up to its end. -/
def compress (state block : Array UInt64) (count : Nat) (isLast : Bool) : Array UInt64 :=
  let v := state ++ start
  let v := v.setIfInBounds 12 (word v 12 ^^^ UInt64.ofNat count)
  let v := v.setIfInBounds 13 (word v 13 ^^^ UInt64.ofNat (count >>> 64))
  let v := if isLast then v.setIfInBounds 14 (word v 14 ^^^ 0xffffffffffffffff) else v
  let v := orders.foldl (round block) v
  Array.ofFn fun i : Fin 8 => word state i.val ^^^ word v i.val ^^^ word v (i.val + 8)

/-- A number in bytes, the lowest first. -/
def littleEndian : Nat → Nat → List UInt8
  | 0, _ => []
  | width + 1, n => UInt8.ofNat n :: littleEndian width (n / 256)

/-- The number that bytes show, the lowest first. -/
def number (bytes : List UInt8) : Nat := bytes.foldr (fun b n => n * 256 + b.toNat) 0

/-- The words of some bytes, eight bytes to a word. -/
def words : List UInt8 → List UInt64
  | a :: b :: c :: d :: e :: f :: g :: h :: rest =>
    UInt64.ofNat (number [a, b, c, d, e, f, g, h]) :: words rest
  | _ => []

/-- Mixes in a message, where so many bytes have gone before. -/
def absorb (state : Array UInt64) (count : Nat) (message : List UInt8) : Array UInt64 :=
  if message.length ≤ 128 then
    let filled := message ++ List.replicate (128 - message.length) 0
    compress state (words filled).toArray (count + message.length) true
  else
    absorb (compress state (words (message.take 128)).toArray (count + 128) false) (count + 128)
      (message.drop 128)
termination_by message.length
decreasing_by simp; omega

/-- The hash of a message in so many bytes. -/
def digest (size : Nat) (message : List UInt8) : List UInt8 :=
  let state := start.setIfInBounds 0 (word start 0 ^^^ 0x01010000 ^^^ UInt64.ofNat size)
  let state := absorb state 0 message
  ((List.range 8).flatMap fun i => littleEndian 8 (word state i).toNat).take size

end ChatServer.Crypto.Blake2b

