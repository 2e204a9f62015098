import ChatServer.Json.Reader
import ChatServer.Time.Timestamp
import ChatServer.Uuid

/-!
# Codecs

A `Codec α` says how values of `α` are written as JSON and how they are read:
from text, where the first fault in the order of the text is reported with its
place, and from a JSON value that has been read already. Codecs of records read
an object by the names of its fields, or a list by their order.

* `Codec.text` and its like are the scalars, `Codec.record` joins fields into
  tuples, and `Codec.map` carries a codec along a change of representation.
-/
namespace ChatServer.Json

open ChatServer.Number ChatServer.Time

/-- How values are written and read. `read` takes the depth of brackets still
allowed, and works on the text; `ofValue` starts from a JSON value that has been
read before. -/
structure Codec (α : Type) where
  encode : α → Value
  read : Nat → List Char → Except Failure (α × List Char)
  ofValue : Value → Except Mismatch α

/-! ## Scalars -/

/-- Reads the scalar, or the bracket, that stands where something else was
expected. -/
def readFound (cs : List Char) : Except Failure (Found × List Char) :=
  match cs with
  | [] => failNext .endInValue []
  | c :: rest =>
    if c = '[' then .ok (.list, cs)
    else if c = '\x7b' then .ok (.object, cs)
    else do
      let (v, rest) ← readValue 1 (c :: rest)
      .ok (v.found, rest)

/-- Fails for a value of the wrong type. -/
def failType {α : Type} (expected : String) (cs : List Char) : Except Failure α := do
  let (found, rest) ← readFound cs
  failMismatch (.wrongType found expected) rest

/-- The codec of values that are written as strings. -/
def Codec.ofString {α : Type} (expected : String) (toText : α → String)
    (ofText : String → Except Mismatch α) : Codec α where
  encode x := .string (toText x)
  read _ cs :=
    match skipBlanks cs with
    | '"' :: rest => do
      let (s, rest) ← readString rest
      match ofText s with
      | .ok x => .ok (x, rest)
      | .error m => failMismatch m rest
    | rest => failType expected rest
  ofValue
    | .string s => ofText s
    | v => .error (.wrongType v.found expected)

def Codec.text : Codec String := .ofString "a string" id .ok

/-- Identifiers in any of their forms. -/
def Codec.uuid : Codec Uuid :=
  .ofString "a formatted UUID string" Uuid.text fun s =>
    match Uuid.parse? s with
    | some id => .ok id
    | none => .error (.refused "UUID parsing failed")

/-- Instants, written in the short form. -/
def Codec.instant : Codec Instant :=
  .ofString "an RFC 3339 formatted date and time string" Instant.short fun s =>
    match Instant.parse s with
    | .ok t => .ok t
    | .error f => .error (.refused f.message)

/-- Timestamps, written as they were submitted. -/
def Codec.timestamp : Codec Timestamp :=
  .ofString "a string" Timestamp.text fun s =>
    match Timestamp.parse s with
    | .ok t => .ok t
    | .error f => .error (.refused f.message)

/-- The number of a numeral that is whole and within a limit. -/
def boundedNumber (limit : Nat) (expected : String) (n : Numeral) : Except Mismatch Nat :=
  match n with
  | .integer k =>
    if 0 ≤ k ∧ k ≤ limit then .ok k.toNat else .error (.wrongValue (.number n) expected)
  | .float _ => .error (.wrongType (.number n) expected)

/-- Whole numbers from zero to a limit. -/
def Codec.number (limit : Nat) (expected : String) : Codec Nat where
  encode n := .number (.integer n)
  read _ cs := do
    let take (r : Numeral × List Char) : Except Failure (Nat × List Char) :=
      match boundedNumber limit expected r.1 with
      | .ok n => .ok (n, r.2)
      | .error m => failMismatch m r.2
    match skipBlanks cs with
    | [] => failNext .endInValue []
    | c :: rest =>
      if c = '-' then take (← readNumber true rest)
      else if c.isDigit then take (← readNumber false (c :: rest))
      else failType expected (c :: rest)
  ofValue
    | .number n => boundedNumber limit expected n
    | v => .error (.wrongType v.found expected)

def Codec.any : Codec Value where
  encode v := v
  read := readValue
  ofValue v := .ok v

/-- Any JSON value with all its members. -/
def Codec.verbatim : Codec Value := { Codec.any with read := readVerbatim }

/-- Any JSON value but lists and objects. -/
def Codec.scalar : Codec Value where
  encode v := v
  read depth cs :=
    match skipBlanks cs with
    | '[' :: rest => leaving afterItem (failMismatch (.wrongType .list "a scalar") rest)
    | '\x7b' :: rest => leaving afterMember (failMismatch (.wrongType .object "a scalar") rest)
    | rest => readValue depth rest
  ofValue
    | .array _ => .error (.wrongType .list "a scalar")
    | .object _ => .error (.wrongType .object "a scalar")
    | v => .ok v

/-- Values that are looked at where they can be read. Where reading fails there
is none, and what follows is read from where the failure leaves off. -/
def Codec.attempt {α : Type} (c : Codec α) : Codec (Option α) where
  encode
    | none => .null
    | some x => c.encode x
  read depth cs :=
    match c.read depth cs with
    | .ok (x, rest) => .ok (some x, rest)
    | .error f => .ok (none, f.resume)
  ofValue v := .ok (c.ofValue v).toOption

/-! ## Choices -/

def named {α : Type} (table : List (String × α)) (name : String) : Except Mismatch α :=
  match table.lookup name with
  | some x => .ok x
  | none => .error (.unknownVariant name (table.map Prod.fst))

/-- The null behind the name of a choice. -/
def readUnit (cs : List Char) : Except Failure (List Char) :=
  match skipBlanks cs with
  | 'n' :: rest => readLiteral ['u', 'l', 'l'] rest
  | rest => failType "unit" rest

/-- A choice written as an object with one member, whose value is null. -/
def readBoxedName {α : Type} (table : List (String × α)) (cs : List Char) :
    Except Failure (α × List Char) :=
  match skipBlanks cs with
  | [] => failNext .endInObject []
  | '\x7d' :: rest => failNext .expectedValue ('\x7d' :: rest)
  | '"' :: rest => do
    let (name, rest) ← readString rest
    match named table name with
    | .error m => failMismatch m rest
    | .ok x =>
      let rest ← readUnit (← readColon rest)
      match skipBlanks rest with
      | [] => failHere .endInObject []
      | c :: rest => if c = '\x7d' then .ok (x, rest) else failHere .expectedValue (c :: rest)
  | rest => failNext .keyNotString rest

def Codec.choice {α : Type} (table : List (String × α)) (name : α → String) : Codec α where
  encode x := .string (name x)
  read depth cs :=
    match skipBlanks cs with
    | [] => failNext .endInValue []
    | c :: rest =>
      if c = '"' then do
        let (s, rest) ← readString rest
        match named table s with
        | .ok x => .ok (x, rest)
        | .error m => failMismatch m rest
      else if c = '\x7b' then
        if depth ≤ 1 then failNext .tooDeep (c :: rest) else readBoxedName table rest
      else failNext .expectedValue (c :: rest)
  ofValue
    | .string s => named table s
    | .object [(s, .null)] => named table s
    | .object [(s, v)] => do
      let _ ← named table s
      .error (.wrongType v.found "unit")
    | v => .error (.wrongType v.found "string or map")

/-! ## Options and lists -/

def Codec.optional {α : Type} (c : Codec α) : Codec (Option α) where
  encode
    | none => .null
    | some x => c.encode x
  read depth cs :=
    match skipBlanks cs with
    | 'n' :: rest => do .ok (none, ← readLiteral ['u', 'l', 'l'] rest)
    | rest => do
      let (x, rest) ← c.read depth rest
      .ok (some x, rest)
  ofValue
    | .null => .ok none
    | v => do return some (← c.ofValue v)

def Codec.list {α : Type} (c : Codec α) : Codec (List α) where
  encode xs := .array (xs.map c.encode)
  read depth cs :=
    match skipBlanks cs with
    | '[' :: rest =>
      if depth ≤ 1 then failNext .tooDeep ('[' :: rest) else readList (c.read (depth - 1)) rest
    | rest => failType "a sequence" rest
  ofValue
    | .array items => items.mapM c.ofValue
    | v => .error (.wrongType v.found "a sequence")

/-! ## Records -/

/-- What a field is taken to be where it does not stand. -/
inductive Absence (α : Type)
  /-- It has to stand. -/
  | refused
  /-- It may be left out of an object, but not of a list. -/
  | named (default : α)
  /-- It may be left out. -/
  | allowed (default : α)

/-- The value of a field left out of an object. -/
def Absence.inObject? {α : Type} : Absence α → Option α
  | .refused => none
  | .named x => some x
  | .allowed x => some x

/-- The value of a field left out of a list. -/
def Absence.inList? {α : Type} : Absence α → Option α
  | .allowed x => some x
  | _ => none

structure Field (α : Type) where
  name : String
  absence : Absence α
  codec : Codec α

inductive Fields : List Type → Type 1
  | nil : Fields []
  | cons {α : Type} {ts : List Type} (field : Field α) (rest : Fields ts) : Fields (α :: ts)

def Tuple : List Type → Type
  | [] => Unit
  | α :: ts => α × Tuple ts

/-- The values of those fields that have been read. -/
def Slots : List Type → Type
  | [] => Unit
  | α :: ts => Option α × Slots ts

namespace Fields

def count : {ts : List Type} → Fields ts → Nat
  | _, .nil => 0
  | _, .cons _ rest => rest.count + 1

def emptySlots : {ts : List Type} → Fields ts → Slots ts
  | _, .nil => ()
  | _, .cons _ rest => (none, rest.emptySlots)

def encode : {ts : List Type} → Fields ts → Tuple ts → List (String × Value)
  | _, .nil, _ => []
  | _, .cons field rest, (x, xs) => (field.name, field.codec.encode x) :: rest.encode xs

/-- Reads the member with this key into its slot; `none` when no field has the
key. A field that stands twice fails behind the second key, or behind the
bracket that closes there. -/
def readMember (depth : Nat) (name : String) (cs : List Char) :
    {ts : List Type} → Fields ts → Slots ts → Option (Except Failure (Slots ts × List Char))
  | _, .nil, _ => none
  | _, .cons field rest, (slot, slots) =>
    if field.name = name then
      if slot.isSome then
        let rest := skipBlanks cs
        some (failMismatch (.duplicateField name) (if rest.head? = some '\x7d' then rest.tail else rest))
      else
        some do
          let (x, cs) ← field.codec.read depth (← readColon cs)
          .ok ((some x, slots), cs)
    else
      (rest.readMember depth name cs slots).map fun r => do
        let (slots, cs) ← r
        .ok ((slot, slots), cs)

/-- The record of the slots, where fields left out take their defaults. -/
def finish : {ts : List Type} → Fields ts → Slots ts → Except Mismatch (Tuple ts)
  | _, .nil, _ => .ok ()
  | _, .cons field rest, (slot, slots) =>
    match slot <|> field.absence.inObject? with
    | none => .error (.missingField field.name)
    | some x => do return (x, ← rest.finish slots)

/-- Reads the fields from a list. `done` counts the fields before these;
`closed` holds the text behind the list once it has ended. -/
def readItems (depth : Nat) (expected : String) :
    {ts : List Type} → Fields ts → Nat → Option (List Char) → List Char →
      Except Failure (Tuple ts × List Char)
  | _, .nil, _, some rest, _ => .ok ((), rest)
  | _, .nil, _, none, cs => do return ((), ← closeList cs)
  | _, .cons field rest, done, closed, cs => do
    let turn ←
      match closed with
      | some after => .ok (.closed after)
      | none => nextItem (done == 0) cs
    match turn with
    | .item cs =>
      let (x, cs) ← field.codec.read depth cs
      let (xs, cs) ← rest.readItems depth expected (done + 1) none cs
      .ok ((x, xs), cs)
    | .closed after =>
      match field.absence.inList? with
      | none => failMismatch (.wrongLength done expected) after
      | some x =>
        let (xs, cs) ← rest.readItems depth expected (done + 1) (some after) cs
        .ok ((x, xs), cs)

/-- Takes the member of a key into its slot, if a field has that key. A field
can be taken once. -/
def takeMember (name : String) (v : Value) :
    {ts : List Type} → Fields ts → Slots ts → Except Mismatch (Slots ts)
  | _, .nil, _ => .ok ()
  | _, .cons field rest, (slot, slots) => do
    if field.name = name then
      if slot.isSome then .error (.duplicateField name)
      else return (some (← field.codec.ofValue v), slots)
    else return (slot, ← rest.takeMember name v slots)

/-- Takes the fields from the items of a list. -/
def takeItems (expected : String) (length : Nat) :
    {ts : List Type} → Fields ts → Nat → List Value → Except Mismatch (Tuple ts)
  | _, .nil, _, [] => .ok ()
  | _, .nil, _, _ :: _ => .error (.wrongLength length "fewer elements in array")
  | _, .cons field rest, done, v :: vs => do
    let x ← field.codec.ofValue v
    return (x, ← rest.takeItems expected length (done + 1) vs)
  | _, .cons field rest, done, [] =>
    match field.absence.inList? with
    | none => .error (.wrongLength done expected)
    | some x => do return (x, ← rest.takeItems expected length (done + 1) [])

end Fields

def Codec.record {ts : List Type} (name : String) (fields : Fields ts) : Codec (Tuple ts) where
  encode x := .object (fields.encode x)
  read depth cs :=
    let elements := if fields.count = 1 then " element" else " elements"
    let expected := "struct " ++ name ++ " with " ++ Text.decimal fields.count ++ elements
    match skipBlanks cs with
    | [] => failNext .endInValue []
    | c :: rest =>
      if c = '\x7b' then
        if depth ≤ 1 then failNext .tooDeep (c :: rest)
        else do
          let member (slots : Slots ts) (name : String) (cs : List Char) :
              Except Failure (Slots ts × List Char) :=
            match fields.readMember (depth - 1) name cs slots with
            | some r => r
            | none => do return (slots, ← skipValue (← readColon cs))
          let (slots, rest) ← readObject member fields.emptySlots rest
          match fields.finish slots with
          | .ok x => .ok (x, rest)
          | .error m => failMismatch m rest
      else if c = '[' then
        if depth ≤ 1 then failNext .tooDeep (c :: rest)
        else fields.readItems (depth - 1) expected 0 none rest
      else failType ("struct " ++ name) (c :: rest)
  ofValue
    | .object members => do
      let slots ← members.foldlM (fun slots (k, v) => fields.takeMember k v slots) fields.emptySlots
      fields.finish slots
    | .array items =>
      let elements := if fields.count = 1 then " element" else " elements"
      let expected := "struct " ++ name ++ " with " ++ Text.decimal fields.count ++ elements
      fields.takeItems expected items.length 0 items
    | v => .error (.wrongType v.found ("struct " ++ name))

namespace Codec

variable {α β : Type}

def map (c : Codec α) (into : α → β) (back : β → α) : Codec β where
  encode y := c.encode (back y)
  read depth cs := do
    let (x, rest) ← c.read depth cs
    .ok (into x, rest)
  ofValue v := do return into (← c.ofValue v)

def write (c : Codec α) (x : α) : String := (c.encode x).text

def parse (c : Codec α) (text : String) : Except ParseError α := readWhole c.read text.toList

end Codec
end ChatServer.Json

