import ChatServer.Json.Codec
import Mathlib.Data.List.TakeDrop

/-!
# Written JSON is read back

The text of a value, read by the rules for the texts of clients, is that value
again. A value stands inside a longer text, so each law is about the text of a
value with something behind it that may follow a value (`Ends`): then the lists
and objects around it need no law of their own about where a value stops.

* `readList_written`, `readObject_written`: the loops over items and members,
  for readers of every kind.
* `Codec.Reads.parse`: what a codec reads inside a text, it reads as a whole
  text.
* `Fits.read`, `parse_text`: a value, read with every member as it stands.
-/
namespace ChatServer.Json

open ChatServer.Number ChatServer.Text

/-- What may follow a value: the end of the text, or a mark that ends the
value. -/
def Ends (rest : List Char) : Prop := ∀ c ∈ rest.head?, c = ',' ∨ c = ']' ∨ c = '\x7d'

theorem ends_nil : Ends [] := by simp [Ends]

theorem ends_comma (rest : List Char) : Ends (',' :: rest) := by simp [Ends]

theorem ends_bracket (rest : List Char) : Ends (']' :: rest) := by simp [Ends]

theorem ends_brace (rest : List Char) : Ends ('\x7d' :: rest) := by simp [Ends]

/-! ## Whole numbers -/

theorem spanAllDigits_append {ds rest : List Char} (hds : ∀ c ∈ ds, c.isDigit = true)
    (hrest : ∀ c ∈ rest.head?, c.isDigit = false) : spanAllDigits (ds ++ rest) = (ds, rest) := by
  have hnone : rest.takeWhile Char.isDigit = [] ∧ rest.dropWhile Char.isDigit = rest := by
    cases rest with
    | nil => exact ⟨rfl, rfl⟩
    | cons c cs => simp [hrest c rfl]
  rw [spanAllDigits, List.span_eq_takeWhile_dropWhile, List.takeWhile_append_of_pos hds,
    List.dropWhile_append_of_pos hds, hnone.1, hnone.2, List.append_nil]

theorem le_ofDigitChars (ds : List Char) (n : Nat) : n ≤ Nat.ofDigitChars 10 ds n := by
  induction ds generalizing n with
  | nil => exact Nat.le_refl n
  | cons d ds ih =>
    have := ih (10 * n + (d.toNat - '0'.toNat))
    rw [Nat.ofDigitChars_cons]
    omega

/-- Digits are taken in as long as their number stays within the limit. -/
theorem takeDigits_all {limit : Nat} {ds : List Char} {n : Nat}
    (h : Nat.ofDigitChars 10 ds n ≤ limit) :
    takeDigits limit n ds = (Nat.ofDigitChars 10 ds n, []) := by
  induction ds generalizing n with
  | nil => rfl
  | cons d ds ih =>
    have hstep : n * 10 + (d.toNat - 0x30) = 10 * n + (d.toNat - '0'.toNat) := by
      rw [Nat.mul_comm]
      rfl
    rw [Nat.ofDigitChars_cons] at h ⊢
    have hd := Nat.le_trans (le_ofDigitChars ds _) h
    simp only [takeDigits, hstep, if_pos hd]
    exact ih h

/-- The first digit of a number with more than one is not zero. -/
theorem toDigits_head {n : Nat} {d : Char} {ds : List Char}
    (h : Nat.toDigits 10 n = '0' :: d :: ds) :
    False := by
  induction n using Nat.strongRecOn generalizing d ds with
  | ind n ih =>
    by_cases hn : n < 10
    · rw [Nat.toDigits_of_lt_base hn] at h
      simp at h
    · rw [Nat.toDigits_of_base_le (by decide) (by omega)] at h
      cases hfront : Nat.toDigits 10 (n / 10) with
      | nil => exact Nat.toDigits_ne_nil hfront
      | cons c cs =>
        rw [hfront] at h
        cases cs with
        | cons c' cs' =>
          obtain rfl : c = '0' := by simpa using (List.cons.inj h).1
          exact ih (n / 10) (by omega) hfront
        | nil =>
          -- one digit in front: it is `n / 10` itself
          obtain rfl : c = '0' := (List.cons.inj h).1
          have hvalue := Nat.ofDigitChars_ten_toDigits (n := n / 10)
          rw [hfront] at hvalue
          have hzero : Nat.ofDigitChars 10 ['0'] 0 = 0 := rfl
          omega

theorem Ends.not_digit {rest : List Char} (h : Ends rest) :
    ∀ c ∈ rest.head?, c.isDigit = false := by
  intro c hc
  rcases h c hc with rfl | rfl | rfl <;> rfl

/-- The digits of a number of 64 bits are read as that number. -/
theorem readNumber_toDigits {n : Nat} (hn : n ≤ significandLimit) {rest : List Char}
    (hr : Ends rest) :
    readNumber false (Nat.toDigits 10 n ++ rest) = .ok (.integer n, rest) := by
  have hspan : spanAllDigits (Nat.toDigits 10 n ++ rest) = (Nat.toDigits 10 n, rest) :=
    spanAllDigits_append (fun c => Nat.isDigit_of_mem_toDigits (by decide) (by decide)) hr.not_digit
  have htake : takeDigits significandLimit 0 (Nat.toDigits 10 n) = (n, []) := by
    rw [takeDigits_all (by rwa [Nat.ofDigitChars_ten_toDigits]), Nat.ofDigitChars_ten_toDigits]
  unfold readNumber
  rw [hspan]
  dsimp only
  split
  · next hnil => exact absurd hnil Nat.toDigits_ne_nil
  · next d more hzero => exact (toDigits_head hzero).elim
  · rw [htake]
    cases rest with
    | nil => rfl
    | cons c cs => rcases hr c rfl with rfl | rfl | rfl <;> rfl

/-! ## How the text of a value begins -/

/-- A value that can be read where brackets nest at most so deep: they are not
nested deeper, and numbers are whole and of 64 bits. -/
inductive Fits : Nat → Value → Prop
  | null {depth : Nat} : Fits (depth + 1) .null
  | bool {depth : Nat} (b : Bool) : Fits (depth + 1) (.bool b)
  | number {depth n : Nat} (hn : n ≤ significandLimit) : Fits (depth + 1) (.number (.integer n))
  | string {depth : Nat} (s : String) : Fits (depth + 1) (.string s)
  | array {depth : Nat} {items : List Value} (h : ∀ v ∈ items, Fits (depth + 1) v) :
    Fits (depth + 2) (.array items)
  | object {depth : Nat} {members : List (String × Value)}
      (h : ∀ m ∈ members, Fits (depth + 1) m.2) :
    Fits (depth + 2) (.object members)

def AllFit (depth : Nat) (members : List (String × Value)) : Prop := ∀ m ∈ members, Fits depth m.2

theorem allFit_nil {depth : Nat} : AllFit depth [] := by simp [AllFit]

theorem AllFit.cons {depth : Nat} {name : String} {v : Value} {members : List (String × Value)}
    (hv : Fits depth v) (h : AllFit depth members) : AllFit depth ((name, v) :: members) :=
  List.forall_mem_cons.2 ⟨hv, h⟩

theorem AllFit.object {depth : Nat} {members : List (String × Value)}
    (h : AllFit (depth + 1) members) :
    Fits (depth + 2) (.object members) :=
  .object h

/-- A text that begins with a character that no reader drops or takes for the
end of a list. -/
def Begins (cs : List Char) : Prop := ∃ c rest, cs = c :: rest ∧ isBlank c = false ∧ c ≠ ']'

theorem toDigits_cons (n : Nat) : ∃ c cs, Nat.toDigits 10 n = c :: cs ∧ c.isDigit = true := by
  cases h : Nat.toDigits 10 n with
  | nil => exact absurd h Nat.toDigits_ne_nil
  | cons c cs =>
    have hmem : c ∈ Nat.toDigits 10 n := h ▸ List.mem_cons_self
    exact ⟨c, cs, rfl, Nat.isDigit_of_mem_toDigits (by decide) (by decide) hmem⟩

theorem natChars (n : Nat) : (Numeral.integer n).chars = Nat.toDigits 10 n := by
  simp [Numeral.chars]

/-- A digit is none of the characters that begin something else. -/
theorem isDigit_apart {c : Char} (h : c.isDigit = true) :
    isBlank c = false ∧ c ≠ 'n' ∧ c ≠ 't' ∧ c ≠ 'f' ∧ c ≠ '"' ∧ c ≠ '-' ∧
      c ≠ '[' ∧ c ≠ ']' ∧ c ≠ '\x7b' := by
  refine ⟨?_, ?_, ?_, ?_, ?_, ?_, ?_, ?_, ?_⟩
  · cases hb : isBlank c with
    | false => rfl
    | true =>
      simp only [isBlank, Bool.or_eq_true, beq_iff_eq, or_assoc] at hb
      rcases hb with rfl | rfl | rfl | rfl <;> cases h
  all_goals rintro rfl; cases h

theorem Fits.begins {depth : Nat} {v : Value} (h : Fits depth v) : Begins v.chars := by
  cases h with
  | null => exact ⟨_, _, rfl, rfl, by decide⟩
  | bool b => cases b <;> exact ⟨_, _, rfl, rfl, by decide⟩
  | @number _ n hn =>
    obtain ⟨c, cs, hcs, hc⟩ := toDigits_cons n
    obtain ⟨hblank, -, -, -, -, -, -, hbracket, -⟩ := isDigit_apart hc
    exact ⟨c, cs, by rw [Value.chars, natChars, hcs], hblank, hbracket⟩
  | string s => exact ⟨'"', _, by rw [Value.chars, stringChars, List.cons_append], rfl, by decide⟩
  | array h => exact ⟨'[', _, by rw [Value.chars, List.cons_append], rfl, by decide⟩
  | object h => exact ⟨'\x7b', _, by rw [Value.chars, List.cons_append], rfl, by decide⟩

theorem Begins.append {cs : List Char} (h : Begins cs) (rest : List Char) :
    Begins (cs ++ rest) := by
  obtain ⟨c, cs, rfl, hblank, hbracket⟩ := h
  exact ⟨c, cs ++ rest, rfl, hblank, hbracket⟩

/-! ## Lists -/

/-- Items behind the first one, each with its comma. -/
def itemsTail : List Value → List Char
  | [] => []
  | v :: vs => ',' :: v.chars ++ itemsTail vs

theorem itemsChars_cons (v : Value) (vs : List Value) :
    Value.itemsChars (v :: vs) = v.chars ++ itemsTail vs := by
  induction vs generalizing v with
  | nil => simp [Value.itemsChars, itemsTail]
  | cons w vs ih => rw [Value.itemsChars, ih, itemsTail, List.cons_append]

theorem itemsTail_ends (vs : List Value) (rest : List Char) :
    Ends (itemsTail vs ++ ']' :: rest) := by
  cases vs with
  | nil => exact ends_bracket rest
  | cons v vs => exact ends_comma _

theorem length_le_itemsTail (vs : List Value) : vs.length ≤ (itemsTail vs).length := by
  induction vs with
  | nil => exact Nat.le_refl 0
  | cons v vs ih =>
    simp only [itemsTail, List.cons_append, List.length_cons, List.length_append]
    omega

theorem nextItem_closed (first : Bool) (rest : List Char) :
    nextItem first (']' :: rest) = .ok (.closed rest) := by
  simp [nextItem, skipBlanks_of_not_blank (show isBlank ']' = false from rfl)]

theorem nextItem_item {cs : List Char} (h : Begins cs) : nextItem true cs = .ok (.item cs) := by
  obtain ⟨c, cs, rfl, hblank, hbracket⟩ := h
  exact nextItem_first hblank hbracket

theorem nextItem_comma {cs : List Char} (h : Begins cs) :
    nextItem false (',' :: cs) = .ok (.item cs) := by
  obtain ⟨c, cs, rfl, hblank, hbracket⟩ := h
  simp [nextItem, skipBlanks_of_not_blank (show isBlank ',' = false from rfl),
    skipBlanks_of_not_blank hblank, hbracket]

section
variable {α : Type} {item : List Char → Except Failure (α × List Char)} {value : α → Value}

theorem readItems_written {xs : List α} (hbegins : ∀ x ∈ xs, Begins (value x).chars)
    (hread : ∀ x ∈ xs, ∀ rest, Ends rest → item ((value x).chars ++ rest) = .ok (x, rest))
    {bound : Nat} (hbound : xs.length < bound) (done : List α) (rest : List Char) :
    readItems item bound false done (itemsTail (xs.map value) ++ ']' :: rest) =
      .ok (done.reverse ++ xs, rest) := by
  induction xs generalizing bound done with
  | nil =>
    obtain ⟨bound, rfl⟩ := Nat.exists_eq_succ_of_ne_zero (Nat.ne_zero_of_lt hbound)
    simp [readItems, itemsTail, nextItem_closed, bind, Except.bind]
  | cons x xs ih =>
    obtain ⟨bound, rfl⟩ := Nat.exists_eq_succ_of_ne_zero (Nat.ne_zero_of_lt hbound)
    have hx := hread x List.mem_cons_self _ (itemsTail_ends (xs.map value) rest)
    have hrest := ih (fun y hy => hbegins y (List.mem_cons_of_mem x hy))
      (fun y hy => hread y (List.mem_cons_of_mem x hy)) (Nat.lt_of_succ_lt_succ hbound) (x :: done)
    rw [List.map_cons, itemsTail, List.cons_append, List.cons_append, List.append_assoc]
    simp only [readItems, nextItem_comma ((hbegins x List.mem_cons_self).append _), hx, hrest, bind,
      Except.bind, List.reverse_cons, List.append_assoc, List.cons_append, List.nil_append]

/-- The items of a list are read one by one. -/
theorem readList_written {xs : List α} (hbegins : ∀ x ∈ xs, Begins (value x).chars)
    (hread : ∀ x ∈ xs, ∀ rest, Ends rest → item ((value x).chars ++ rest) = .ok (x, rest))
    (rest : List Char) :
    readList item (Value.itemsChars (xs.map value) ++ ']' :: rest) = .ok (xs, rest) := by
  cases xs with
  | nil => simp [readList, readItems, Value.itemsChars, nextItem_closed, bind, Except.bind]
  | cons x xs =>
    have hx := hread x List.mem_cons_self _ (itemsTail_ends (xs.map value) rest)
    have hlength := length_le_itemsTail (xs.map value)
    rw [List.length_map] at hlength
    rw [List.map_cons, itemsChars_cons, List.append_assoc, readList]
    have hbound : xs.length < ((value x).chars ++ (itemsTail (xs.map value) ++ ']' :: rest)).length := by
      simp only [List.length_append, List.length_cons]
      omega
    have hrest := readItems_written (fun y hy => hbegins y (List.mem_cons_of_mem x hy))
      (fun y hy => hread y (List.mem_cons_of_mem x hy)) hbound [x] rest
    simp only [readItems, nextItem_item ((hbegins x List.mem_cons_self).append _), hx, hrest, bind,
      Except.bind, List.reverse_cons, List.reverse_nil, List.cons_append, List.nil_append]

end

/-! ## Objects -/

def membersTail : List (String × Value) → List Char
  | [] => []
  | (k, v) :: members => ',' :: stringChars k ++ ':' :: v.chars ++ membersTail members

theorem membersChars_cons (k : String) (v : Value) (members : List (String × Value)) :
    Value.membersChars ((k, v) :: members) =
      stringChars k ++ ':' :: v.chars ++ membersTail members := by
  induction members generalizing k v with
  | nil => simp [Value.membersChars, membersTail]
  | cons m members ih => rw [Value.membersChars, ih, membersTail, List.cons_append, List.cons_append]

theorem membersTail_ends (members : List (String × Value)) (rest : List Char) :
    Ends (membersTail members ++ '\x7d' :: rest) := by
  cases members with
  | nil => exact ends_brace rest
  | cons m members => exact ends_comma _

theorem length_le_membersTail (members : List (String × Value)) :
    members.length ≤ (membersTail members).length := by
  induction members with
  | nil => exact Nat.le_refl 0
  | cons m members ih =>
    simp only [membersTail, List.cons_append, List.length_cons, List.length_append]
    omega

theorem readKey_written (k : String) (rest : List Char) :
    readKey (stringChars k ++ rest) = .ok (.key k rest) := by
  have h : stringChars k ++ rest = '"' :: (escaped k.toList ++ '"' :: rest) := by simp [stringChars]
  rw [h, readKey, readString_escaped]
  rfl

theorem nextMember_closed (first : Bool) (rest : List Char) :
    nextMember first ('\x7d' :: rest) = .ok (.closed rest) := by
  simp [nextMember, skipBlanks_of_not_blank (show isBlank '\x7d' = false from rfl)]

theorem nextMember_key (k : String) (rest : List Char) :
    nextMember true (stringChars k ++ rest) = .ok (.key k rest) := by
  rw [← readKey_written]
  simp [nextMember, stringChars, skipBlanks_of_not_blank (show isBlank '"' = false from rfl)]

theorem nextMember_comma (k : String) (rest : List Char) :
    nextMember false (',' :: stringChars k ++ rest) = .ok (.key k rest) := by
  rw [← readKey_written]
  simp [nextMember, stringChars, skipBlanks_of_not_blank (show isBlank ',' = false from rfl),
    skipBlanks_of_not_blank (show isBlank '"' = false from rfl)]

theorem readColon_written (rest : List Char) : readColon (':' :: rest) = .ok rest := by
  simp [readColon, skipBlanks_of_not_blank (show isBlank ':' = false from rfl)]

section
variable {σ : Type} {member : σ → String → List Char → Except Failure (σ × List Char)}

/-- A reader of members takes these from one state to another, whatever follows
each of them. -/
inductive Takes (member : σ → String → List Char → Except Failure (σ × List Char)) :
    σ → List (String × Value) → σ → Prop
  | nil {s : σ} : Takes member s [] s
  | cons {s s' s'' : σ} {k : String} {v : Value} {members : List (String × Value)}
    (h : ∀ rest, Ends rest → member s k (':' :: v.chars ++ rest) = .ok (s', rest))
    (hrest : Takes member s' members s'') : Takes member s ((k, v) :: members) s''

theorem readMembers_written {s s' : σ} {members : List (String × Value)}
    (h : Takes member s members s')
    {bound : Nat} (hbound : members.length < bound) (rest : List Char) :
    readMembers member bound false s (membersTail members ++ '\x7d' :: rest) = .ok (s', rest) := by
  induction h generalizing bound with
  | nil =>
    obtain ⟨bound, rfl⟩ := Nat.exists_eq_succ_of_ne_zero (Nat.ne_zero_of_lt hbound)
    simp [readMembers, membersTail, nextMember_closed, bind, Except.bind]
  | @cons s s' s'' k v members hmember hrest ih =>
    obtain ⟨bound, rfl⟩ := Nat.exists_eq_succ_of_ne_zero (Nat.ne_zero_of_lt hbound)
    have hfirst := hmember _ (membersTail_ends members rest)
    have hnext := ih (Nat.lt_of_succ_lt_succ hbound)
    rw [membersTail, List.append_assoc, List.append_assoc]
    simp only [readMembers, nextMember_comma, hfirst, hnext, bind, Except.bind]

/-- The members of an object are taken in one by one. -/
theorem readObject_written {s s' : σ} {members : List (String × Value)}
    (h : Takes member s members s') (rest : List Char) :
    readObject member s (Value.membersChars members ++ '\x7d' :: rest) = .ok (s', rest) := by
  cases h with
  | nil => simp [readObject, readMembers, Value.membersChars, nextMember_closed, bind, Except.bind]
  | @cons _ s₁ _ k v members hmember hrest =>
    have hfirst := hmember _ (membersTail_ends members rest)
    have hlength := length_le_membersTail members
    rw [membersChars_cons, List.append_assoc, List.append_assoc, readObject]
    have hbound : members.length <
        (stringChars k ++ (':' :: v.chars ++ (membersTail members ++ '\x7d' :: rest))).length := by
      simp only [List.length_append, List.length_cons]
      omega
    have hnext := readMembers_written hrest hbound rest
    simp only [readMembers, nextMember_key, hfirst, hnext, bind, Except.bind]

end

/-! ## Values -/

/-- The codec reads the text of `v` as `x` where brackets may nest so deep,
whatever follows it. -/
def Codec.Reads {α : Type} (c : Codec α) (depth : Nat) (v : Value) (x : α) : Prop :=
  ∀ rest, Ends rest → c.read depth (v.chars ++ rest) = .ok (x, rest)

/-- A value that is read with anything behind it is read as a whole text. -/
theorem Codec.Reads.parse {α : Type} {c : Codec α} {v : Value} {x : α}
    (h : c.Reads depthLimit v x) :
    c.parse v.text = .ok x := by
  have hread := h [] ends_nil
  rw [List.append_nil] at hread
  simp [Codec.parse, readWhole, Value.text, hread, expectEnd, skipBlanks, bind, Except.bind,
    Except.mapError, pure, Except.pure]

section
variable (join : String → Value → List (String × Value) → List (String × Value)) (depth : Nat)

theorem readValueBy_string (s : String) (rest : List Char) :
    readValueBy join (depth + 1) (stringChars s ++ rest) = .ok (.string s, rest) := by
  have hread := readString_escaped s rest
  rw [readValueBy]
  simp [stringChars, skipBlanks_of_not_blank (show isBlank '"' = false from rfl), hread, bind,
    Except.bind]

theorem readValueBy_number {n : Nat} (hn : n ≤ significandLimit) {rest : List Char}
    (hr : Ends rest) :
    readValueBy join (depth + 1) ((Numeral.integer n).chars ++ rest) =
      .ok (.number (.integer n), rest) := by
  obtain ⟨c, cs, hcs, hc⟩ := toDigits_cons n
  obtain ⟨hblank, hn', ht, hf, hq, hm, -, -, -⟩ := isDigit_apart hc
  have hread := readNumber_toDigits hn hr
  rw [hcs, List.cons_append] at hread
  rw [natChars, hcs, List.cons_append, readValueBy, skipBlanks_of_not_blank hblank]
  simp [hn', ht, hf, hq, hm, hc, hread, bind, Except.bind]

end

/-- A member of an object that is read with every member as it stands. -/
def readVerbatimMember (depth : Nat) (members : List (String × Value)) (name : String)
    (cs : List Char) :
    Except Failure (List (String × Value) × List Char) := do
  let (v, rest) ← readVerbatim depth (← readColon cs)
  .ok (members ++ [(name, v)], rest)

theorem readVerbatim_list (depth : Nat) (cs : List Char) : readVerbatim (depth + 2) ('[' :: cs) =
    (leaving afterItem (readList (readVerbatim (depth + 1)) cs)).map fun (items, rest) =>
      (.array items, rest) := by
  rw [readVerbatim, readValueBy, skipBlanks_of_not_blank (show isBlank '[' = false from rfl)]
  rfl

theorem readVerbatim_object (depth : Nat) (cs : List Char) : readVerbatim (depth + 2)
    ('\x7b' :: cs) =
    (leaving afterMember (readObject (readVerbatimMember (depth + 1)) [] cs)).map fun (members, rest) =>
      (.object members, rest) := by
  rw [readVerbatim, readValueBy, skipBlanks_of_not_blank (show isBlank '\x7b' = false from rfl)]
  rfl

/-- The members of an object are taken up in their order. -/
theorem takes_members {depth : Nat} {members : List (String × Value)}
    (h : ∀ m ∈ members, ∀ rest, Ends rest →
      readVerbatim depth (m.2.chars ++ rest) = .ok (m.2, rest)) (done : List (String × Value)) :
    Takes (readVerbatimMember depth) done members (done ++ members) := by
  induction members generalizing done with
  | nil => simpa using Takes.nil
  | cons m members ih =>
    obtain ⟨k, v⟩ := m
    have hrest := ih (fun m hm => h m (List.mem_cons_of_mem _ hm)) (done ++ [(k, v)])
    rw [List.append_assoc, List.singleton_append] at hrest
    refine .cons (fun rest hends => ?_) hrest
    have hv := h _ List.mem_cons_self rest hends
    simp [readVerbatimMember, readColon_written, hv, bind, Except.bind]

/-- A value that fits is read as it was written, whatever follows it. -/
theorem Fits.read {depth : Nat} {v : Value} (h : Fits depth v) {rest : List Char} (hr : Ends rest) :
    readVerbatim depth (v.chars ++ rest) = .ok (v, rest) := by
  induction h generalizing rest with
  | null => rfl
  | bool b => cases b <;> rfl
  | @number depth n hn => exact readValueBy_number _ depth hn hr
  | @string depth s => exact readValueBy_string _ depth s rest
  | @array depth items h ih =>
    have hread : readList (readVerbatim (depth + 1))
        (Value.itemsChars (items.map id) ++ ']' :: rest) = .ok (items, rest) :=
      readList_written (fun v hv => (h v hv).begins) (fun v hv rest hends => ih v hv hends) rest
    rw [List.map_id] at hread
    rw [Value.chars, List.cons_append, List.cons_append, List.append_assoc, List.singleton_append,
      readVerbatim_list, hread]
    rfl
  | @object depth members h ih =>
    have htakes := takes_members (fun m hm rest hends => ih m hm hends) []
    have hread := readObject_written htakes rest
    rw [Value.chars, List.cons_append, List.cons_append, List.append_assoc, List.singleton_append,
      readVerbatim_object, hread]
    rfl

/-- **The text of a value is that value.** It may nest brackets as deep as
readers allow. -/
theorem parse_text {v : Value} (h : Fits depthLimit v) : Codec.verbatim.parse v.text = .ok v :=
  Codec.Reads.parse fun _ hr => h.read hr

end ChatServer.Json

