import ChatServer.Json.Lexeme

/-!
# Reading JSON text

The loops over items and members, which value readers of every kind share, and
the reader of any JSON value. Brackets nest at most `depthLimit` deep in what is
kept. Values that are only passed over may nest without limit and are checked
for their form alone.

* `nextItem_first`: the first item of a list needs no comma.
* `skipValue` reads at least one character for each unit of its bound, so the
  length of the text bounds it.
-/
namespace ChatServer.Json

/-- Brackets may nest one less deep than this. -/
def depthLimit : Nat := 128

/-! ## Lists and objects -/

/-- What comes next in a list: its end, with the text behind it, or an item. -/
inductive ItemTurn
  | closed (rest : List Char)
  | item (rest : List Char)

def nextItem (first : Bool) (cs : List Char) : Except Failure ItemTurn :=
  match skipBlanks cs with
  | [] => failNext .endInList []
  | c :: rest =>
    if c = ']' then .ok (.closed rest)
    else if first then .ok (.item (c :: rest))
    else if c = ',' then
      match skipBlanks rest with
      | [] => failNext .endInValue []
      | d :: rest => if d = ']' then failNext .trailingComma (d :: rest) else .ok (.item (d :: rest))
    else failNext .expectedListSeparator (c :: rest)

/-- Reads items up to the end of their list. `done` holds the items read, last
first. -/
def readItems {α : Type} (item : List Char → Except Failure (α × List Char)) :
    Nat → Bool → List α → List Char → Except Failure (List α × List Char)
  | 0, _, _, cs => failNext .endInList cs
  | bound + 1, first, done, cs => do
    match ← nextItem first cs with
    | .closed rest => .ok (done.reverse, rest)
    | .item rest =>
      let (x, rest) ← item rest
      readItems item bound false (x :: done) rest

def readList {α : Type} (item : List Char → Except Failure (α × List Char)) (cs : List Char) :
    Except Failure (List α × List Char) :=
  readItems item (cs.length + 1) true [] cs

/-- The end of a list of which no more items are asked for. -/
def closeList (cs : List Char) : Except Failure (List Char) :=
  match skipBlanks cs with
  | [] => failNext .endInList []
  | c :: rest =>
    if c = ']' then .ok rest
    else if c = ',' then
      match skipBlanks rest with
      | ']' :: rest => failNext .trailingComma (']' :: rest)
      | rest => failNext .trailingCharacters rest
    else failNext .trailingCharacters (c :: rest)

/-- What comes next in an object: its end, or a key, each with the text behind
it. -/
inductive MemberTurn
  | closed (rest : List Char)
  | key (name : String) (rest : List Char)

/-- Reads a key from its first quote on. -/
def readKey : List Char → Except Failure MemberTurn
  | '"' :: cs => do
    let (name, rest) ← readString cs
    .ok (.key name rest)
  | cs => failNext .keyNotString cs

/-- Looks for the next key of an object. -/
def nextMember (first : Bool) (cs : List Char) : Except Failure MemberTurn :=
  match skipBlanks cs with
  | [] => failNext .endInObject []
  | c :: rest =>
    if c = '\x7d' then .ok (.closed rest)
    else if first then readKey (c :: rest)
    else if c = ',' then
      match skipBlanks rest with
      | [] => failNext .endInValue []
      | d :: rest =>
        if d = '\x7d' then failNext .trailingComma (d :: rest) else readKey (d :: rest)
    else failNext .expectedObjectSeparator (c :: rest)

/-- The colon behind a key. -/
def readColon (cs : List Char) : Except Failure (List Char) :=
  match skipBlanks cs with
  | [] => failNext .endInObject []
  | c :: rest => if c = ':' then .ok rest else failNext .expectedColon (c :: rest)

/-- Takes in members up to the end of their object; `member` takes a key and
reads from behind it. -/
def readMembers {σ : Type} (member : σ → String → List Char → Except Failure (σ × List Char)) :
    Nat → Bool → σ → List Char → Except Failure (σ × List Char)
  | 0, _, _, cs => failNext .endInObject cs
  | bound + 1, first, s, cs => do
    match ← nextMember first cs with
    | .closed rest => .ok (s, rest)
    | .key name rest =>
      let (s, rest) ← member s name rest
      readMembers member bound false s rest

def readObject {σ : Type}
    (member : σ → String → List Char → Except Failure (σ × List Char)) (start : σ)
    (cs : List Char) : Except Failure (σ × List Char) :=
  readMembers member (cs.length + 1) true start cs

/-! ## After a failure -/

/-- Where reading goes on when an item of a list has failed: behind the end of
the list if that follows, and behind a comma. Where neither follows it goes on
at the place of the failure. -/
def afterItem (cs : List Char) : List Char :=
  match skipBlanks cs with
  | ']' :: rest => rest
  | ',' :: rest => skipBlanks rest
  | rest => rest

/-- Where reading goes on when a member of an object has failed: behind the end
of the object if that follows. -/
def afterMember (cs : List Char) : List Char :=
  match skipBlanks cs with
  | '\x7d' :: rest => rest
  | rest => rest

/-- Leaves the brackets in which reading has failed. -/
def leaving {α : Type} (after : List Char → List Char) (r : Except Failure α) : Except Failure α :=
  r.mapError fun f => { f with resume := after f.resume }

/-! ## Any value -/

/-- Reads a value; `join` adds a member to those before it. -/
def readValueBy (join : String → Value → List (String × Value) → List (String × Value)) :
    Nat → List Char → Except Failure (Value × List Char)
  | 0, cs => failNext .tooDeep cs
  | depth + 1, cs =>
    match skipBlanks cs with
    | [] => failNext .endInValue []
    | c :: rest =>
      if c = 'n' then do .ok (.null, ← readLiteral ['u', 'l', 'l'] rest)
      else if c = 't' then do .ok (.bool true, ← readLiteral ['r', 'u', 'e'] rest)
      else if c = 'f' then do .ok (.bool false, ← readLiteral ['a', 'l', 's', 'e'] rest)
      else if c = '"' then do
        let (s, rest) ← readString rest
        .ok (.string s, rest)
      else if c = '-' then do
        let (n, rest) ← readNumber true rest
        .ok (.number n, rest)
      else if c.isDigit then do
        let (n, rest) ← readNumber false (c :: rest)
        .ok (.number n, rest)
      else if c = '[' then
        if depth = 0 then failNext .tooDeep (c :: rest)
        else do
          let (items, rest) ← leaving afterItem (readList (readValueBy join depth) rest)
          .ok (.array items, rest)
      else if c = '\x7b' then
        if depth = 0 then failNext .tooDeep (c :: rest)
        else do
          let member (members : List (String × Value)) (name : String) (cs : List Char) :
              Except Failure (List (String × Value) × List Char) := do
            let (v, rest) ← readValueBy join depth (← readColon cs)
            .ok (join name v members, rest)
          let (members, rest) ← leaving afterMember (readObject member [] rest)
          .ok (.object members, rest)
      else failNext .expectedValue (c :: rest)

/-- Reads a value. Of two members with one key the later one stays; members are
kept by key. -/
def readValue : Nat → List Char → Except Failure (Value × List Char) := readValueBy insertMember

/-- Reads a value with every member as it stands, also those whose key has stood
before. -/
def readVerbatim : Nat → List Char → Except Failure (Value × List Char) :=
  readValueBy fun name v members => members ++ [(name, v)]

/-! ## Values passed over -/

inductive Bracket
  | list
  | object

def Bracket.close : Bracket → Char
  | .list => ']'
  | .object => '\x7d'

/-- The failure at the end of a text where the bracket is open. -/
def Bracket.endInside : Bracket → Malformation
  | .list => .endInList
  | .object => .endInObject

/-- The failure at anything but a comma and the closing character. -/
def Bracket.expectedSeparator : Bracket → Malformation
  | .list => .expectedListSeparator
  | .object => .expectedObjectSeparator

/-- What is due after a value: nothing more, or another value inside open
brackets. -/
inductive SkipTurn
  | done (rest : List Char)
  | value (brackets : List Bracket) (rest : List Char)

/-- Passes over a key where one is due, up to its value. -/
def skipToValue (b : Bracket) (outer : List Bracket) (cs : List Char) : Except Failure SkipTurn :=
  match b with
  | .list => .ok (.value (b :: outer) cs)
  | .object =>
    match skipBlanks cs with
    | [] => failNext .endInObject []
    | c :: rest =>
      if c = '"' then do
        let rest ← readColon (← skipString rest)
        .ok (.value (b :: outer) rest)
      else failNext .keyNotString (c :: rest)

/-- Goes on after a value: closes brackets, or passes a comma. -/
def skipAfterValue : List Bracket → List Char → Except Failure SkipTurn
  | [], cs => .ok (.done cs)
  | b :: outer, cs =>
    match skipBlanks cs with
    | [] => failNext b.endInside []
    | c :: rest =>
      if c = ',' then skipToValue b outer rest
      else if c = b.close then skipAfterValue outer rest
      else failNext b.expectedSeparator (c :: rest)

def skipAfterOpen (b : Bracket) (outer : List Bracket) (cs : List Char) : Except Failure SkipTurn :=
  match skipBlanks cs with
  | [] => failNext b.endInside []
  | c :: rest => if c = b.close then skipAfterValue outer rest else skipToValue b outer (c :: rest)

/-- Passes over the front of a value: a whole scalar, or an opening bracket. -/
def skipFront (brackets : List Bracket) (cs : List Char) : Except Failure SkipTurn :=
  match skipBlanks cs with
  | [] => failNext .endInValue []
  | c :: rest =>
    if c = 'n' then do skipAfterValue brackets (← readLiteral ['u', 'l', 'l'] rest)
    else if c = 't' then do skipAfterValue brackets (← readLiteral ['r', 'u', 'e'] rest)
    else if c = 'f' then do skipAfterValue brackets (← readLiteral ['a', 'l', 's', 'e'] rest)
    else if c = '"' then do skipAfterValue brackets (← skipString rest)
    else if c = '-' then do skipAfterValue brackets (← skipNumber rest)
    else if c.isDigit then do skipAfterValue brackets (← skipNumber (c :: rest))
    else if c = '[' then skipAfterOpen .list brackets rest
    else if c = '\x7b' then skipAfterOpen .object brackets rest
    else failNext .expectedValue (c :: rest)

/-- Passes over values until no bracket is open. -/
def skipValues : Nat → List Bracket → List Char → Except Failure (List Char)
  | 0, _, cs => failNext .endInValue cs
  | bound + 1, brackets, cs => do
    match ← skipFront brackets cs with
    | .done rest => .ok rest
    | .value brackets rest => skipValues bound brackets rest

/-- Passes over one value. -/
def skipValue (cs : List Char) : Except Failure (List Char) := skipValues (cs.length + 1) [] cs

/-! ## Whole texts -/

def expectEnd (cs : List Char) : Except Failure Unit :=
  match skipBlanks cs with
  | [] => .ok ()
  | rest => failNext .trailingCharacters rest

/-- Reads a whole text with a reader of values. -/
def readWhole {α : Type} (read : Nat → List Char → Except Failure (α × List Char))
    (text : List Char) :
    Except ParseError α :=
  let result : Except Failure α := do
    let (x, rest) ← read depthLimit text
    expectEnd rest
    return x
  result.mapError (Failure.locate text)

theorem nextItem_first {c : Char} {cs : List Char} (hb : isBlank c = false) (hc : c ≠ ']') :
    nextItem true (c :: cs) = .ok (.item (c :: cs)) := by
  simp [nextItem, skipBlanks_of_not_blank hb, hc]

end ChatServer.Json

