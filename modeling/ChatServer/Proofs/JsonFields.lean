import ChatServer.Proofs.JsonText

/-!
# Written records are read back

A record's reader takes the members of an object in any order, each into the
slot of its key, and passes over those whose key it does not know. So what it
does with a member is settled field by field (`recordMember_own`,
`recordMember_behind`), and a record whose codecs read what they write reads
what it writes.

* `reads_record`: the object of a record, once it is known what each member does
  to the slots.
* `reads_encode`: a record reads what it has written.
-/
namespace ChatServer.Json

open ChatServer.Number ChatServer.Text

variable {α β : Type} {depth : Nat}

/-! ## Scalars -/

theorem reads_ofString {expected : String} {toText : α → String}
    {ofText : String → Except Mismatch α} {s : String} {x : α} (h : ofText s = .ok x) :
    (Codec.ofString expected toText ofText).Reads depth (.string s) x := by
  intro rest _
  have hread := readString_escaped s rest
  simp [Codec.ofString, Value.chars, stringChars,
    skipBlanks_of_not_blank (show isBlank '"' = false from rfl), hread,
    h, bind, Except.bind]

theorem reads_number {limit n : Nat} {expected : String} (hn : n ≤ limit)
    (hlimit : limit ≤ significandLimit) :
    (Codec.number limit expected).Reads depth (.number (.integer n)) n := by
  intro rest hr
  obtain ⟨c, cs, hcs, hc⟩ := toDigits_cons n
  obtain ⟨hblank, -, -, -, -, hm, -, -, -⟩ := isDigit_apart hc
  have hread := readNumber_toDigits (Nat.le_trans hn hlimit) hr
  rw [hcs, List.cons_append] at hread
  have hbounded : boundedNumber limit expected (.integer n) = .ok n := by
    have hint : (n : Int) ≤ limit := Int.ofNat_le.2 hn
    rw [boundedNumber, if_pos ⟨Int.natCast_nonneg n, hint⟩, Int.toNat_natCast]
  rw [Value.chars, natChars, hcs, List.cons_append]
  simp [Codec.number, skipBlanks_of_not_blank hblank, hm, hc, hread, hbounded, bind, Except.bind]

theorem reads_any (s : String) : Codec.any.Reads (depth + 1) (.string s) (.string s) :=
  fun rest _ => readValueBy_string insertMember depth s rest

theorem reads_scalar {n : Nat} (hn : n ≤ significandLimit) :
    Codec.scalar.Reads (depth + 1) (.number (.integer n)) (.number (.integer n)) := by
  intro rest hr
  have hread := readValueBy_number insertMember depth hn hr
  obtain ⟨c, cs, hcs, hc⟩ := toDigits_cons n
  obtain ⟨hblank, -, -, -, -, -, hlist, -, hobject⟩ := isDigit_apart hc
  rw [natChars, hcs, List.cons_append] at hread
  rw [Value.chars, natChars, hcs, List.cons_append]
  simp only [Codec.scalar, skipBlanks_of_not_blank hblank]
  split
  · next heq => exact absurd (List.cons.inj heq).1 hlist
  · next heq => exact absurd (List.cons.inj heq).1 hobject
  · exact hread

theorem Codec.Reads.attempt {c : Codec α} {v : Value} {x : α} (h : c.Reads depth v x) :
    c.attempt.Reads depth v (some x) := by
  intro rest hr
  simp [Codec.attempt, h rest hr]

theorem Codec.Reads.map {c : Codec α} {v : Value} {x : α} (h : c.Reads depth v x) (into : α → β)
    (back : β → α) :
    (c.map into back).Reads depth v (into x) := by
  intro rest hr
  simp [Codec.map, h rest hr, bind, Except.bind]

/-! ## Strings passed over -/

theorem skipPlain_escapedChar (c : Char) (cs : List Char) :
    skipStringFrom .plain (escapedChar c ++ cs) = skipStringFrom .plain cs := by
  unfold escapedChar
  iterate 7
    split
    · rename_i h
      simp [skipStringFrom, escapeLetter?]
  split
  · have hz : Hex.value? '0' = some 0 := by decide
    simp [controlEscape, skipStringFrom, hz, Hex.value?_digit]
  · rename_i hq hs _ _ _ _ _ hlt
    simp [skipStringFrom, hq, hs, hlt]

theorem skipString_escaped (s cs : List Char) : skipString (escaped s ++ '"' :: cs) = .ok cs := by
  induction s with
  | nil => simp [skipString, skipStringFrom, escaped]
  | cons c s ih =>
    have hescaped : escaped (c :: s) = escapedChar c ++ escaped s := List.flatMap_cons
    rw [hescaped, List.append_assoc, skipString, skipPlain_escapedChar]
    exact ih

theorem skipValue_string (s : String) (rest : List Char) :
    skipValue (stringChars s ++ rest) = .ok rest := by
  have hskip := skipString_escaped s.toList rest
  simp [skipValue, skipValues, skipFront, stringChars,
    skipBlanks_of_not_blank (show isBlank '"' = false from rfl),
    hskip, skipAfterValue, bind, Except.bind]

/-! ## Members -/

namespace Fields

/-- What a record does with a member: it takes it into its slot, or passes over
it. -/
def recordMember {ts : List Type} (fields : Fields ts) (depth : Nat) (slots : Slots ts)
    (name : String) (cs : List Char) : Except Failure (Slots ts × List Char) :=
  match fields.readMember depth name cs slots with
  | some r => r
  | none => do return (slots, ← skipValue (← readColon cs))

theorem recordMember_known {ts : List Type} {fields : Fields ts} {slots : Slots ts} {name : String}
    {cs : List Char} {r : Except Failure (Slots ts × List Char)}
    (h : fields.readMember depth name cs slots = some r) :
    fields.recordMember depth slots name cs = r := by
  rw [recordMember, h]

theorem recordMember_unknown {ts : List Type} {fields : Fields ts} {slots : Slots ts}
    {name : String} {cs : List Char} (h : fields.readMember depth name cs slots = none) :
    fields.recordMember depth slots name cs = ((readColon cs).bind skipValue).map fun rest =>
    (slots, rest) := by
  rw [recordMember, h]
  cases readColon cs with
  | error f => rfl
  | ok cs =>
    show (do return (slots, ← skipValue cs)) = (skipValue cs).map _
    cases skipValue cs <;> rfl

section
variable {ts : List Type} {field : Field α} {more : Fields ts}

/-- The first field takes the member of its name. -/
theorem recordMember_own {v : Value} {x : α} (h : field.codec.Reads depth v x) (slots : Slots ts)
    {rest : List Char} (hr : Ends rest) :
    (cons field more).recordMember depth ((none, slots) : Slots (α :: ts)) field.name
        (':' :: v.chars ++ rest) =
      .ok (((some x, slots) : Slots (α :: ts)), rest) := by
  refine recordMember_known ((if_pos rfl).trans ?_)
  simp [readColon_written, h rest hr, bind, Except.bind]

/-- A member of another name is left to the fields behind the first. -/
theorem recordMember_other {name : String} (h : field.name ≠ name) (slot : Option α)
    (slots : Slots ts) (cs : List Char) :
    (cons field more).recordMember depth ((slot, slots) : Slots (α :: ts)) name cs =
      (more.recordMember depth slots name cs).map fun p =>
      (((slot, p.1) : Slots (α :: ts)), p.2) := by
  have hread : (cons field more).readMember depth name cs ((slot, slots) : Slots (α :: ts)) =
      (more.readMember depth name cs slots).map fun r => r.map fun p =>
        (((slot, p.1) : Slots (α :: ts)), p.2) := by
    refine (if_neg h).trans ?_
    cases more.readMember depth name cs slots with
    | none => rfl
    | some r => cases r <;> rfl
  cases hmore : more.readMember depth name cs slots with
  | some r =>
    rw [hmore] at hread
    rw [recordMember_known hmore]
    exact recordMember_known hread
  | none =>
    rw [hmore] at hread
    rw [recordMember_unknown hmore]
    refine (recordMember_unknown hread).trans ?_
    cases (readColon cs).bind skipValue <;> rfl

theorem recordMember_behind {name : String} (h : field.name ≠ name) {slot : Option α}
    {slots slots' : Slots ts}
    {cs rest : List Char} (hmore : more.recordMember depth slots name cs = .ok (slots', rest)) :
    (cons field more).recordMember depth ((slot, slots) : Slots (α :: ts)) name cs =
      .ok (((slot, slots') : Slots (α :: ts)), rest) := by
  refine (recordMember_other h slot slots cs).trans ?_
  rw [hmore]
  rfl

/-- A string is passed over where no field has its key. -/
theorem recordMember_nil (name s : String) (rest : List Char) :
    nil.recordMember depth () name (':' :: stringChars s ++ rest) = .ok ((), rest) := by
  have hread : (readColon (':' :: (stringChars s ++ rest))).bind skipValue = .ok rest := by
    rw [readColon_written]
    exact skipValue_string s rest
  refine (recordMember_unknown rfl).trans ?_
  rw [List.cons_append, hread]
  rfl

end

def names : {ts : List Type} → Fields ts → List String
  | _, .nil => []
  | _, .cons field rest => field.name :: rest.names

/-- Each field's codec reads what it has written. -/
def Reads (depth : Nat) : {ts : List Type} → Fields ts → Tuple ts → Prop
  | _, .nil, _ => True
  | _, .cons field rest, (x, xs) => field.codec.Reads depth (field.codec.encode x) x ∧
      rest.Reads depth xs

/-- Every field has been read. -/
def filledSlots : {ts : List Type} → Fields ts → Tuple ts → Slots ts
  | _, .nil, _ => ()
  | _, .cons _ rest, (x, xs) => (some x, rest.filledSlots xs)

theorem finish_filledSlots {ts : List Type} (fields : Fields ts) (x : Tuple ts) :
    fields.finish (fields.filledSlots x) = .ok x := by
  induction fields with
  | nil => rfl
  | cons field rest ih =>
    obtain ⟨x, xs⟩ := x
    show (do return (x, ← rest.finish (rest.filledSlots xs))) = _
    rw [ih]
    rfl

theorem mem_names {ts : List Type} {fields : Fields ts} {x : Tuple ts} {m : String × Value}
    (h : m ∈ fields.encode x) : m.1 ∈ fields.names := by
  induction fields with
  | nil => cases h
  | cons field rest ih =>
    obtain ⟨x, xs⟩ := x
    rcases List.mem_cons.1 h with rfl | h
    · exact List.mem_cons_self
    · exact List.mem_cons_of_mem _ (ih h)

/-- What the fields behind the first take in, all fields take in, if the first
has none of the keys. -/
theorem takes_cons {ts : List Type} {field : Field α} {more : Fields ts}
    {members : List (String × Value)}
    {slots slots' : Slots ts} (h : Takes (more.recordMember depth) slots members slots')
    (hnames : ∀ m ∈ members, field.name ≠ m.1) (slot : Option α) :
    Takes ((cons field more).recordMember depth) ((slot, slots) : Slots (α :: ts)) members
      ((slot, slots') : Slots (α :: ts)) := by
  induction h with
  | nil => exact .nil
  | @cons s s' s'' k v members hmember _ ih =>
    exact .cons (fun rest hr => recordMember_behind (hnames (k, v) List.mem_cons_self) (hmember rest hr))
      (ih fun m hm => hnames m (List.mem_cons_of_mem _ hm))

/-- The written members fill the slots one after the other. -/
theorem takes_encode {ts : List Type} {fields : Fields ts} (hnames : fields.names.Nodup)
    {x : Tuple ts} (h : fields.Reads depth x) :
    Takes (fields.recordMember depth) fields.emptySlots (fields.encode x)
    (fields.filledSlots x) := by
  induction fields with
  | nil => exact .nil
  | cons field rest ih =>
    obtain ⟨x, xs⟩ := x
    obtain ⟨hfresh, hnames⟩ := List.nodup_cons.1 hnames
    refine .cons (fun _ hr => recordMember_own h.1 _ hr)
      (takes_cons (ih hnames h.2) (fun m hm he => ?_) (some x))
    exact hfresh (he ▸ mem_names hm)

end Fields

/-! ## Records -/

variable {ts : List Type} {name : String} {fields : Fields ts} {x : Tuple ts}

theorem record_read (name : String) (fields : Fields ts) (depth : Nat) (cs : List Char) :
    (Codec.record name fields).read (depth + 2) ('\x7b' :: cs) = (do
      let (slots, rest) ← readObject (fields.recordMember (depth + 1)) fields.emptySlots cs
      match fields.finish slots with
      | .ok x => .ok (x, rest)
      | .error m => failMismatch m rest) := by
  have hblank : isBlank '\x7b' = false := rfl
  simp only [Codec.record, skipBlanks_of_not_blank hblank]
  rfl

/-- An object is read as the record that its members leave in the slots. -/
theorem reads_record {members : List (String × Value)} {slots : Slots ts}
    (h : Takes (fields.recordMember (depth + 1)) fields.emptySlots members slots)
    (hx : fields.finish slots = .ok x) :
    (Codec.record name fields).Reads (depth + 2) (.object members) x := by
  intro rest _
  rw [Value.chars, List.cons_append, List.cons_append, List.append_assoc, List.singleton_append,
    record_read,
    readObject_written h]
  show (match fields.finish slots with | .ok x => _ | .error m => _) = _
  rw [hx]

/-- **A record reads what it has written**, if its codecs do and no two fields
have one name. -/
theorem reads_encode (hnames : fields.names.Nodup) (h : fields.Reads (depth + 1) x) :
    (Codec.record name fields).Reads (depth + 2) ((Codec.record name fields).encode x) x :=
  reads_record (fields.takes_encode hnames h) (fields.finish_filledSlots x)

end ChatServer.Json

