import ChatServer.Crypto.Blake2b

/-!
# Argon2

The hash of a password that takes a set amount of memory and time. The memory is
a table of blocks of 128 words, with a row for each lane. A row is cut into four
slices, and the slices are filled in turn, as often as there are passes. A new
block is mixed from the block before it and another that was filled earlier;
which one is taken from a word that comes from the data or from the place alone.
The last column gives the hash.
-/
namespace ChatServer.Crypto.Argon2

open Blake2b

/-- Where the words come from that choose earlier blocks. -/
inductive Variant
  /-- From the block before. -/
  | dataDependent
  /-- From the place. -/
  | dataIndependent
  /-- From the place in the first half of the first pass, from the block before
  later. -/
  | hybrid
deriving DecidableEq

def Variant.code : Variant → Nat
  | dataDependent => 0
  | dataIndependent => 1
  | hybrid => 2

/-- What a new block does to the one that stood in its place. -/
inductive Version
  | replacing
  | mixing
deriving DecidableEq

def Version.code : Version → Nat
  | replacing => 0x10
  | mixing => 0x13

structure Settings where
  variant : Variant
  version : Version
  /-- Kibibytes of memory. -/
  memory : Nat
  passes : Nat
  lanes : Nat
  key : List UInt8
  /-- Bytes that go into the hash beside password and salt. -/
  data : List UInt8

abbrev Block := Array UInt64

namespace Block

def zero : Block := Array.replicate 128 0

def xor (x y : Block) : Block := x.zipWith (· ^^^ ·) y

def ofBytes (bytes : List UInt8) : Block := (words bytes).toArray

def bytes (x : Block) : List UInt8 := x.toList.flatMap fun w => littleEndian 8 w.toNat

/-- A sum with the product of the lower halves. -/
@[inline] def blend (x y : UInt64) : UInt64 :=
  x + y + 2 * (x &&& 0xffffffff) * (y &&& 0xffffffff)

/-- Mixes four words. -/
@[inline] def quarter (a b c d : UInt64) : UInt64 × UInt64 × UInt64 × UInt64 :=
  let a := blend a b
  let d := rotate (d ^^^ a) 32
  let c := blend c d
  let b := rotate (b ^^^ c) 24
  let a := blend a b
  let d := rotate (d ^^^ a) 16
  let c := blend c d
  let b := rotate (b ^^^ c) 63
  (a, b, c, d)

/-- Pairs of words at equal distances. -/
structure Pairs where
  first : Nat
  distance : Nat

namespace Pairs

@[inline] def place (p : Pairs) (i : Nat) : Nat := p.first + p.distance * (i / 2) + i % 2

/-- A word of the pairs. -/
@[inline] def get (p : Pairs) (x : Block) (i : Nat) : UInt64 := word x (p.place i)

/-- Puts four words in a row. -/
@[inline] def put (p : Pairs) (x : Block) (i : Nat) (a b c d : UInt64) : Block :=
  let x := (x.setIfInBounds (p.place i) a).setIfInBounds (p.place (i + 1)) b
  (x.setIfInBounds (p.place (i + 2)) c).setIfInBounds (p.place (i + 3)) d

end Pairs

/-- Mixes the sixteen words of eight pairs. -/
def permute (x : Block) (q : Pairs) : Block :=
  let (a, e, i, m) := quarter (q.get x 0) (q.get x 4) (q.get x 8) (q.get x 12)
  let (b, f, j, n) := quarter (q.get x 1) (q.get x 5) (q.get x 9) (q.get x 13)
  let (c, g, k, o) := quarter (q.get x 2) (q.get x 6) (q.get x 10) (q.get x 14)
  let (d, h, l, p) := quarter (q.get x 3) (q.get x 7) (q.get x 11) (q.get x 15)
  let (a, f, k, p) := quarter a f k p
  let (b, g, l, m) := quarter b g l m
  let (c, h, i, n) := quarter c h i n
  let (d, e, j, o) := quarter d e j o
  q.put (q.put (q.put (q.put x 0 a b c d) 4 e f g h) 8 i j k l) 12 m n o p

/-- The rows of the square of pairs that a block is. -/
def rows : List Pairs := (List.range 8).map fun i => ⟨16 * i, 2⟩

def columns : List Pairs := (List.range 8).map fun i => ⟨2 * i, 16⟩

/-- A block mixed from two: their sum is mixed along the rows and then along the
columns, and added to itself as it was. -/
def mix (x y : Block) : Block :=
  let sum := x.xor y
  sum.xor ((rows ++ columns).foldl permute sum)

end Block

/-- Goes on hashing, 32 bytes at a time, while more than 64 bytes are wanted. -/
def stretchOn (size : Nat) (bytes : List UInt8) : List UInt8 :=
  if size ≤ 64 then digest size bytes
  else
    let next := digest 64 bytes
    next.take 32 ++ stretchOn (size - 32) next

/-- A hash of any length. -/
def stretch (size : Nat) (bytes : List UInt8) : List UInt8 :=
  stretchOn size (littleEndian 4 size ++ bytes)

/-- Bytes with their length before them. -/
def measured (bytes : List UInt8) : List UInt8 := littleEndian 4 bytes.length ++ bytes

/-- The hash of all that goes in. -/
def seed (s : Settings) (size : Nat) (password salt : List UInt8) : List UInt8 :=
  digest 64 <|
    [s.lanes, size, s.memory, s.passes, s.version.code, s.variant.code].flatMap (littleEndian 4) ++
      measured password ++ measured salt ++ measured s.key ++ measured s.data

namespace Settings

/-- Blocks of a lane in one slice. -/
def sliceLength (s : Settings) : Nat := s.memory / (4 * s.lanes)

def laneLength (s : Settings) : Nat := 4 * s.sliceLength

end Settings

structure Place where
  pass : Nat
  slice : Nat
  lane : Nat
  /-- The number of the block in its lane and slice. -/
  index : Nat

/-- The words that choose blocks in a slice of a lane by their places alone. -/
def placeWords (s : Settings) (p : Place) : Array UInt64 :=
  let blocks := (List.range (s.sliceLength / 128 + 1)).map fun i =>
    let counts := [p.pass, p.lane, p.slice, 4 * s.lanes * s.sliceLength, s.passes,
      s.variant.code, i + 1]
    let block := (counts.map UInt64.ofNat ++ List.replicate 121 0).toArray
    Block.mix .zero (Block.mix .zero block)
  blocks.foldl (· ++ ·) #[]

/-- In a slice blocks are chosen by their places alone. -/
def choosesByPlace (s : Settings) (p : Place) : Bool :=
  match s.variant with
  | .dataDependent => false
  | .dataIndependent => true
  | .hybrid => p.pass == 0 && p.slice < 2

/-- The lane and the column of the block that a word chooses. It is one of the
blocks that were filled last: those of the slices before, and in the same lane
those of this slice, but not the block just before. Blocks near the end are
likelier. -/
def chosen (s : Settings) (p : Place) (w : UInt64) : Nat × Nat :=
  let lane := if p.pass = 0 ∧ p.slice = 0 then p.lane else (w >>> 32).toNat % s.lanes
  let before := (if p.pass = 0 then p.slice else 3) * s.sliceLength
  let count :=
    if lane = p.lane then before + p.index - 1 else if p.index = 0 then before - 1 else before
  let low := (w &&& 0xffffffff).toNat
  let back := count * (low * low / 0x100000000) / 0x100000000
  let first := if p.pass = 0 then 0 else (p.slice + 1) * s.sliceLength
  (lane, (first + (count - 1 - back)) % s.laneLength)

/-- The blocks of all lanes, lane after lane. -/
abbrev Memory := Array Block

def Memory.block (m : Memory) (s : Settings) (lane column : Nat) : Block :=
  m.getD (lane * s.laneLength + column) .zero

def fillBlock (s : Settings) (chooser : Array UInt64) (p : Place) (m : Memory) : Memory :=
  let column := p.slice * s.sliceLength + p.index
  let last := m.block s p.lane ((column + s.laneLength - 1) % s.laneLength)
  let w := if choosesByPlace s p then word chooser p.index else word last 0
  let (lane, other) := chosen s p w
  let block := Block.mix last (m.block s lane other)
  let old := m.block s p.lane column
  m.setIfInBounds (p.lane * s.laneLength + column)
    (if p.pass ≠ 0 ∧ s.version = .mixing then block.xor old else block)

/-- Fills a slice of a lane. The first two blocks of a lane are there from the
start. -/
def fillSlice (s : Settings) (pass slice lane : Nat) (m : Memory) : Memory :=
  let place (index : Nat) : Place := ⟨pass, slice, lane, index⟩
  let chooser := if choosesByPlace s (place 0) then placeWords s (place 0) else #[]
  let start := if pass = 0 ∧ slice = 0 then 2 else 0
  (List.range' start (s.sliceLength - start)).foldl (fun m i => fillBlock s chooser (place i) m) m

/-- The memory with the first two blocks of each lane. -/
def startMemory (s : Settings) (seed : List UInt8) : Memory :=
  let m : Memory := Array.replicate (s.lanes * s.laneLength) .zero
  (List.range s.lanes).foldl (fun m lane =>
    [0, 1].foldl (fun m column =>
      m.setIfInBounds (lane * s.laneLength + column)
        (.ofBytes (stretch 1024 (seed ++ littleEndian 4 column ++ littleEndian 4 lane)))) m) m

def fill (s : Settings) (m : Memory) : Memory :=
  (List.range s.passes).foldl (fun m pass =>
    (List.range 4).foldl (fun m slice =>
      (List.range s.lanes).foldl (fun m lane => fillSlice s pass slice lane m) m) m) m

/-- The hash of a password with a salt, in so many bytes. -/
def tag (s : Settings) (size : Nat) (password salt : List UInt8) : List UInt8 :=
  let m := fill s (startMemory s (seed s size password salt))
  let ends := (List.range s.lanes).map fun lane => m.block s lane (s.laneLength - 1)
  stretch size (ends.foldl Block.xor .zero).bytes

end ChatServer.Crypto.Argon2

