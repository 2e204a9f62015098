import ChatServer.Json.Bytes
import ChatServer.Proofs.JsonText

/-!
# JSON text that went through bytes

Tokens carry JSON as bytes, and what reads them does not take for granted that
bytes are a text. The bytes of a text are read as its characters, and the bytes
of JSON text that was written are read as that text: outside strings it has
nothing but ASCII, and inside strings no quote or backslash stands alone.

* `Utf8.feedAll_encodeChar`, `Utf8.decode?_bytesOf`: the bytes of a character,
  and of a text.
* `Fits.kept`, `ofBytes_text`: the bytes of a value's text.
-/
namespace ChatServer.Text.Utf8

/-! ## Bytes of a text -/

theorem toList_loop (bytes : List UInt8) (i : Nat) (done : List UInt8) :
    ByteArray.toList.loop bytes.toByteArray i done = done.reverse ++ bytes.drop i := by
  induction h : bytes.length - i generalizing i done with
  | zero =>
    rw [ByteArray.toList.loop, if_neg (by rw [List.size_toByteArray]; omega),
      List.drop_eq_nil_of_le (by omega), List.append_nil]
  | succ n ih =>
    have hi : i < bytes.length := by omega
    rw [ByteArray.toList.loop, if_pos (by rwa [List.size_toByteArray]), ih (i + 1) _ (by omega),
      List.drop_eq_getElem_cons hi]
    simp [ByteArray.get!, hi]

def bytesOf (cs : List Char) : List UInt8 := cs.flatMap String.utf8EncodeChar

theorem encode_ofList (cs : List Char) : encode (String.ofList cs) = bytesOf cs := by
  have h : encode (String.ofList cs) = (bytesOf cs).toByteArray.toList := rfl
  rw [h, ByteArray.toList, toList_loop, List.drop_zero, List.reverse_nil, List.nil_append]

theorem bytesOf_cons (c : Char) (cs : List Char) :
    bytesOf (c :: cs) = String.utf8EncodeChar c ++ bytesOf cs := List.flatMap_cons

theorem bytesOf_append (a b : List Char) : bytesOf (a ++ b) = bytesOf a ++ bytesOf b :=
  List.flatMap_append

/-! ## One character -/

theorem ascii_of_isDigit {c : Char} (h : c.isDigit = true) : c.toNat ≤ 127 := by
  simp only [Char.isDigit, Bool.and_eq_true, decide_eq_true_eq, UInt32.le_iff_toNat_le] at h
  exact Nat.le_trans h.2 (by decide)

theorem toNat_byte {n : Nat} (h : n < 256) : (UInt8.ofNat n).toNat = n := by
  rw [UInt8.toNat_ofNat']
  exact Nat.mod_eq_of_lt h

/-- A byte within its bounds that is not the last of its character. -/
theorem feed_more (more value k : Nat) {low high : Nat} (hlow : low ≤ 0x80 + k)
    (hhigh : 0x80 + k ≤ high) (hk : k < 64) :
    feed (.owing (more + 2) low high value) (UInt8.ofNat (k + 128)) =
      some (.owing (more + 1) 0x80 0xBF (value * 0x40 + k), []) := by
  have hbyte : (UInt8.ofNat (k + 128)).toNat = 0x80 + k := by rw [toNat_byte (by omega)]; omega
  have hvalue : 0x80 + k - 0x80 = k := by omega
  rw [feed, hbyte, if_pos ⟨hlow, hhigh⟩, hvalue, if_neg (by omega)]
  rfl

/-- The last byte of a character. -/
theorem feed_last (value k : Nat) {low high : Nat} (hlow : low ≤ 0x80 + k) (hhigh : 0x80 + k ≤ high)
    (hk : k < 64) :
    feed (.owing 1 low high value) (UInt8.ofNat (k + 128)) =
      some (.start, [Char.ofNat (value * 0x40 + k)]) := by
  have hbyte : (UInt8.ofNat (k + 128)).toNat = 0x80 + k := by rw [toNat_byte (by omega)]; omega
  have hvalue : 0x80 + k - 0x80 = k := by omega
  rw [feed, hbyte, if_pos ⟨hlow, hhigh⟩, hvalue, if_pos (Nat.le_refl 1)]

theorem lead_two {k : Nat} (hlow : 2 ≤ k) (hk : k < 32) :
    lead (k + 192) = some (.owing 1 0x80 0xBF k, []) := by
  have h1 : ¬ k + 192 < 0x80 := by omega
  have h2 : ¬ k + 192 < 0xC2 := by omega
  have h3 : k + 192 < 0xE0 := by omega
  simp [lead, h1, h2, h3]

/-- The bounds on the second byte of three rule out what has a shorter form, and
halves of pairs. -/
theorem lead_three {k j : Nat} (hk : k < 16) (hj : j < 64) (hlow : k = 0 → 32 ≤ j)
    (hhigh : k = 13 → j < 32) : ∃ low high, lead (k + 224) = some (.owing 2 low high k, []) ∧
      low ≤ 0x80 + j ∧ 0x80 + j ≤ high := by
  by_cases h0 : k = 0
  · have := hlow h0
    subst h0
    exact ⟨0xA0, 0xBF, rfl, by omega, by omega⟩
  by_cases h13 : k = 13
  · have := hhigh h13
    subst h13
    exact ⟨0x80, 0x9F, rfl, by omega, by omega⟩
  have h1 : ¬ k + 224 < 0x80 := by omega
  have h2 : ¬ k + 224 < 0xC2 := by omega
  have h3 : ¬ k + 224 < 0xE0 := by omega
  have h4 : k + 224 < 0xF0 := by omega
  exact ⟨0x80, 0xBF, by simp [lead, h1, h2, h3, h4, h0, h13], by omega, by omega⟩

/-- The bounds on the second byte of four rule out what has a shorter form, and
what is no character. -/
theorem lead_four {k j : Nat} (hk : k < 5) (hj : j < 64) (hlow : k = 0 → 16 ≤ j)
    (hhigh : k = 4 → j < 16) :
    ∃ low high, lead (k + 240) = some (.owing 3 low high k, []) ∧ low ≤ 0x80 + j ∧
      0x80 + j ≤ high := by
  by_cases h0 : k = 0
  · have := hlow h0
    subst h0
    exact ⟨0x90, 0xBF, rfl, by omega, by omega⟩
  by_cases h4 : k = 4
  · have := hhigh h4
    subst h4
    exact ⟨0x80, 0x8F, rfl, by omega, by omega⟩
  have hmiddle : k = 1 ∨ k = 2 ∨ k = 3 := by omega
  rcases hmiddle with rfl | rfl | rfl <;> exact ⟨0x80, 0xBF, rfl, by omega, by omega⟩

section
variable {s s' : State} {b : UInt8} {bs : List UInt8}

theorem feedAll_owing (h : feed s b = some (s', [])) : feedAll s (b :: bs) = feedAll s' bs := by
  rw [feedAll, h]
  cases hbs : feedAll s' bs <;> simp [hbs]

theorem feedAll_char {c : Char} (h : feed s b = some (s', [c])) :
    feedAll s (b :: bs) = (feedAll s' bs).map fun p => (p.1, c :: p.2) := by
  rw [feedAll, h]
  cases hbs : feedAll s' bs <;> simp [hbs]

end

/-- The bytes of a character are read as that character. -/
theorem feedAll_encodeChar (c : Char) (bs : List UInt8) :
    feedAll .start (String.utf8EncodeChar c ++ bs) = (feedAll .start bs).map fun p =>
    (p.1, c :: p.2) := by
  have hvalid : c.toNat < 0xD800 ∨ (0xDFFF < c.toNat ∧ c.toNat < 0x110000) := c.valid
  have hc : Char.ofNat c.toNat = c := Char.ofNat_toNat c
  rw [String.utf8EncodeChar, Char.toNat_val]
  generalize c.toNat = v at hvalid hc ⊢
  by_cases h1 : v ≤ 127
  · have hlead : feed .start (UInt8.ofNat v) = some (.start, [c]) := by
      rw [feed, toNat_byte (by omega), lead, if_pos (by omega), hc]
    rw [if_pos h1]
    exact feedAll_char hlead
  rw [if_neg h1]
  by_cases h2 : v ≤ 2047
  · have hlead : feed .start (UInt8.ofNat (v / 64 % 32 + 192)) =
      some (.owing 1 0x80 0xBF (v / 64 % 32), []) := by
      rw [feed, toNat_byte (by omega), lead_two (by omega) (by omega)]
    have hlast : feed (.owing 1 0x80 0xBF _) _ = _ :=
      feed_last (v / 64 % 32) (v % 64) (by omega) (by omega) (by omega)
    rw [show v / 64 % 32 * 0x40 + v % 64 = v by omega, hc] at hlast
    rw [if_pos h2]
    exact (feedAll_owing hlead).trans (feedAll_char hlast)
  rw [if_neg h2]
  by_cases h3 : v ≤ 65535
  · obtain ⟨low, high, hlead, hlow, hhigh⟩ :=
      lead_three (k := v / 4096 % 16) (j := v / 64 % 64) (by omega) (by omega)
      (by omega) (by omega)
    have hfirst : feed .start (UInt8.ofNat (v / 4096 % 16 + 224)) =
        some (.owing 2 low high (v / 4096 % 16), []) := by
      rw [feed, toNat_byte (by omega), hlead]
    have hmiddle := feed_more 0 (v / 4096 % 16) _ hlow hhigh (by omega)
    have hlast : feed (.owing 1 0x80 0xBF _) _ = _ :=
      feed_last (v / 4096 % 16 * 0x40 + v / 64 % 64) (v % 64) (by omega) (by omega) (by omega)
    rw [show (v / 4096 % 16 * 0x40 + v / 64 % 64) * 0x40 + v % 64 = v by omega, hc] at hlast
    rw [if_pos h3]
    exact (feedAll_owing hfirst).trans ((feedAll_owing hmiddle).trans (feedAll_char hlast))
  rw [if_neg h3]
  obtain ⟨low, high, hlead, hlow, hhigh⟩ :=
    lead_four (k := v / 262144 % 8) (j := v / 4096 % 64) (by omega) (by omega)
    (by omega) (by omega)
  have hfirst : feed .start (UInt8.ofNat (v / 262144 % 8 + 240)) =
      some (.owing 3 low high (v / 262144 % 8), []) := by
    rw [feed, toNat_byte (by omega), hlead]
  have hsecond := feed_more 1 (v / 262144 % 8) _ hlow hhigh (by omega)
  have hthird : feed (.owing 2 0x80 0xBF _) _ = _ :=
    feed_more 0 (v / 262144 % 8 * 0x40 + v / 4096 % 64) (v / 64 % 64) (by omega) (by omega)
      (by omega)
  have hlast : feed (.owing 1 0x80 0xBF _) _ = _ :=
    feed_last ((v / 262144 % 8 * 0x40 + v / 4096 % 64) * 0x40 + v / 64 % 64) (v % 64) (by omega)
      (by omega)
      (by omega)
  rw [show ((v / 262144 % 8 * 0x40 + v / 4096 % 64) * 0x40 + v / 64 % 64) * 0x40 + v % 64 =
    v by omega, hc] at hlast
  exact (feedAll_owing hfirst).trans ((feedAll_owing hsecond).trans ((feedAll_owing hthird).trans
    (feedAll_char hlast)))

theorem decode?_bytesOf (cs : List Char) : decode? (bytesOf cs) = some (String.ofList cs) := by
  have hall : feedAll .start (bytesOf cs) = some (.start, cs) := by
    induction cs with
    | nil => rfl
    | cons c cs ih => rw [bytesOf_cons, feedAll_encodeChar, ih, Option.map_some]
  rw [decode?, hall]

end ChatServer.Text.Utf8

namespace ChatServer.Json

open ChatServer.Text ChatServer.Text.Utf8

/-! ## Outside strings -/

/-- The bytes of these characters, which stand outside strings or are whole
strings, are read as them. -/
def Kept (cs : List Char) : Prop :=
  ∀ bs, charsFrom .outside (bytesOf cs ++ bs) = cs ++ charsFrom .outside bs

theorem kept_nil : Kept [] := fun _ => rfl

theorem Kept.append {a b : List Char} (ha : Kept a) (hb : Kept b) : Kept (a ++ b) := by
  intro bs
  rw [bytesOf_append, List.append_assoc, ha, hb, List.append_assoc]

theorem encodeChar_ascii {c : Char} (h : c.toNat ≤ 127) :
    String.utf8EncodeChar c = [UInt8.ofNat c.toNat] := by
  rw [String.utf8EncodeChar, Char.toNat_val, if_pos h]

/-- Different characters of ASCII have different bytes. -/
theorem byte_ne {c d : Char} (hc : c.toNat ≤ 127) (hd : d.toNat ≤ 127) (h : c ≠ d) :
    UInt8.ofNat c.toNat ≠ UInt8.ofNat d.toNat := by
  intro he
  have hnat := congrArg UInt8.toNat he
  rw [toNat_byte (by omega), toNat_byte (by omega)] at hnat
  exact h (Char.toNat_inj.1 hnat)

theorem kept_char {c : Char} (h : c.toNat ≤ 127) (hq : c ≠ '"') : Kept [c] := by
  intro bs
  have hlt : UInt8.ofNat c.toNat < 0x80 := by
    rw [UInt8.lt_iff_toNat_lt, toNat_byte (by omega)]
    exact Nat.lt_succ_of_le h
  have hne : UInt8.ofNat c.toNat ≠ 0x22 := byte_ne h (d := '"') (by decide) hq
  have hchar : asciiChar (UInt8.ofNat c.toNat) = c := by
    rw [asciiChar, if_pos hlt, toNat_byte (by omega), Char.ofNat_toNat]
  rw [bytesOf_cons, encodeChar_ascii h]
  simp [charsFrom, hchar, hne, bytesOf]

theorem Kept.cons {c : Char} {cs : List Char} (h : Kept cs) (hc : c.toNat ≤ 127) (hq : c ≠ '"') :
    Kept (c :: cs) :=
  (kept_char hc hq).append h

theorem kept_ascii {cs : List Char} (h : ∀ c ∈ cs, c.toNat ≤ 127 ∧ c ≠ '"') : Kept cs := by
  induction cs with
  | nil => exact kept_nil
  | cons c cs ih =>
    obtain ⟨hc, hq⟩ := h c List.mem_cons_self
    exact (ih fun c' hc' => h c' (List.mem_cons_of_mem c hc')).cons hc hq

theorem kept_digits {cs : List Char} (h : ∀ c ∈ cs, c.isDigit = true) : Kept cs := by
  refine kept_ascii fun c hc => ?_
  have hd := h c hc
  exact ⟨ascii_of_isDigit hd, (isDigit_apart hd).2.2.2.2.1⟩

/-! ## Inside strings -/

/-- Bytes that neither end a string nor begin an escape. -/
def PlainBytes (bytes : List UInt8) : Prop := ∀ b ∈ bytes, b ≠ 0x22 ∧ b ≠ 0x5C

theorem inside_plain {bytes : List UInt8} (h : PlainBytes bytes) (done bs : List UInt8) :
    charsFrom (.inside false done)
    (bytes ++ bs) = charsFrom (.inside false (bytes.reverse ++ done)) bs := by
  induction bytes generalizing done with
  | nil => rfl
  | cons b bytes ih =>
    obtain ⟨hquote, hslash⟩ := h b List.mem_cons_self
    rw [List.cons_append, charsFrom, if_neg hquote, decide_eq_false hslash,
      ih (fun b' hb' => h b' (List.mem_cons_of_mem b hb')), List.reverse_cons, List.append_assoc]
    rfl

/-- A character that needs no escape. -/
def IsPlain (c : Char) : Prop := c ≠ '"' ∧ c ≠ '\\'

theorem plainBytes_encodeChar {c : Char} (h : IsPlain c) :
    PlainBytes (String.utf8EncodeChar c) := by
  -- the bytes of what is no ASCII are all above it
  have high {n : Nat} (hlow : 128 ≤ n) (hlt : n < 256) : UInt8.ofNat n ≠ 0x22 ∧
      UInt8.ofNat n ≠ 0x5C := by
    have hbyte := toNat_byte hlt
    constructor <;> rintro he <;> rw [he] at hbyte <;> simp at hbyte <;> omega
  rw [String.utf8EncodeChar, Char.toNat_val]
  split
  · next hc =>
    intro b hb
    rw [List.mem_singleton.1 hb]
    exact ⟨byte_ne hc (d := '"') (by decide) h.1, byte_ne hc (d := '\\') (by decide) h.2⟩
  split
  · simp only [PlainBytes, List.mem_cons, List.not_mem_nil, or_false, forall_eq_or_imp, forall_eq]
    exact ⟨high (by omega) (by omega), high (by omega) (by omega)⟩
  split
  · simp only [PlainBytes, List.mem_cons, List.not_mem_nil, or_false, forall_eq_or_imp, forall_eq]
    exact ⟨high (by omega) (by omega), high (by omega) (by omega), high (by omega) (by omega)⟩
  · simp only [PlainBytes, List.mem_cons, List.not_mem_nil, or_false, forall_eq_or_imp, forall_eq]
    exact ⟨high (by omega) (by omega), high (by omega) (by omega), high (by omega) (by omega),
      high (by omega) (by omega)⟩

theorem plainBytes_bytesOf {cs : List Char} (h : ∀ c ∈ cs, IsPlain c) :
    PlainBytes (bytesOf cs) := by
  intro b hb
  obtain ⟨c, hc, hb⟩ := List.mem_flatMap.1 hb
  exact plainBytes_encodeChar (h c hc) b hb

theorem isPlain_digit (d : Fin 16) : IsPlain (Hex.digit d) := by
  revert d
  unfold IsPlain
  decide

/-- A character stands as itself, or as an escape. -/
theorem escapedChar_cases (c : Char) : (escapedChar c = [c] ∧ IsPlain c) ∨
    ∃ x rest, escapedChar c = '\\' :: x :: rest ∧ x.toNat ≤ 127 ∧ ∀ y ∈ rest, IsPlain y := by
  have short (x : Char) (hx : x.toNat ≤ 127) : ∃ y rest, ['\\', x] = '\\' :: y :: rest ∧
    y.toNat ≤ 127 ∧
      ∀ z ∈ rest, IsPlain z := ⟨x, [], rfl, hx, by simp⟩
  unfold escapedChar
  split
  · exact .inr (short _ (by decide))
  next hq =>
  split
  · exact .inr (short _ (by decide))
  next hs =>
  iterate 5
    split
    · exact .inr (short _ (by decide))
  split
  · refine .inr ⟨'u', _, rfl, by decide, ?_⟩
    simp only [List.mem_cons, List.not_mem_nil, or_false, forall_eq_or_imp, forall_eq]
    exact ⟨⟨by decide, by decide⟩, ⟨by decide, by decide⟩, isPlain_digit _, isPlain_digit _⟩
  · exact .inl ⟨rfl, hq, hs⟩

/-- An escaped character is passed over inside a string. -/
theorem inside_escapedChar (c : Char) (done bs : List UInt8) :
    charsFrom (.inside false done) (bytesOf (escapedChar c) ++ bs) =
      charsFrom (.inside false ((bytesOf (escapedChar c)).reverse ++ done)) bs := by
  rcases escapedChar_cases c with ⟨hself, hplain⟩ | ⟨x, rest, hescape, hx, hrest⟩
  · rw [hself]
    exact inside_plain (plainBytes_bytesOf (by simpa using hplain)) done bs
  · have hbytes : bytesOf (escapedChar c) = 0x5C :: UInt8.ofNat x.toNat :: bytesOf rest := by
      rw [hescape, bytesOf_cons, bytesOf_cons, encodeChar_ascii hx, encodeChar_ascii (by decide)]
      rfl
    rw [hbytes, List.cons_append, List.cons_append, charsFrom, if_neg (by decide),
      decide_eq_true rfl, charsFrom,
      inside_plain (plainBytes_bytesOf hrest)]
    simp

theorem inside_escaped (cs : List Char) (done bs : List UInt8) :
    charsFrom (.inside false done) (bytesOf (escaped cs) ++ bs) =
      charsFrom (.inside false ((bytesOf (escaped cs)).reverse ++ done)) bs := by
  induction cs generalizing done with
  | nil => rfl
  | cons c cs ih =>
    have hescaped : escaped (c :: cs) = escapedChar c ++ escaped cs := List.flatMap_cons
    rw [hescaped, bytesOf_append, List.append_assoc, inside_escapedChar, ih, List.reverse_append,
      List.append_assoc]

/-- The bytes of a string that was written are read as that string. -/
theorem kept_string (s : String) : Kept (stringChars s) := by
  intro bs
  have hquote : String.utf8EncodeChar '"' = [0x22] := rfl
  have hinside : insideChars (bytesOf (escaped s.toList)) = escaped s.toList := by
    rw [insideChars, decode?_bytesOf]
    exact String.toList_ofList
  have hend : bytesOf (stringChars s) ++ bs =
      0x22 :: (bytesOf (escaped s.toList) ++ 0x22 :: bs) := by
    rw [stringChars, List.cons_append, bytesOf_cons, bytesOf_append, bytesOf_cons, hquote]
    simp [bytesOf]
  rw [hend, charsFrom, if_pos rfl, inside_escaped, charsFrom, if_pos rfl, List.append_nil,
    List.reverse_reverse,
    hinside, stringChars]
  simp [asciiChar]

/-! ## Values -/

theorem kept_itemsTail {vs : List Value} (h : ∀ v ∈ vs, Kept v.chars) : Kept (itemsTail vs) := by
  induction vs with
  | nil => exact kept_nil
  | cons v vs ih =>
    exact ((h v List.mem_cons_self).cons (c := ',') (by decide) (by decide)).append
      (ih fun w hw => h w (List.mem_cons_of_mem v hw))

theorem kept_itemsChars {vs : List Value} (h : ∀ v ∈ vs, Kept v.chars) :
    Kept (Value.itemsChars vs) := by
  cases vs with
  | nil => exact kept_nil
  | cons v vs =>
    rw [itemsChars_cons]
    exact (h v List.mem_cons_self).append (kept_itemsTail fun w hw => h w (List.mem_cons_of_mem v hw))

theorem kept_member (k : String) {v : Value} (h : Kept v.chars) :
    Kept (stringChars k ++ ':' :: v.chars) :=
  (kept_string k).append (h.cons (by decide) (by decide))

theorem kept_membersTail {members : List (String × Value)} (h : ∀ m ∈ members, Kept m.2.chars) :
    Kept (membersTail members) := by
  induction members with
  | nil => exact kept_nil
  | cons m members ih =>
    exact ((kept_member m.1 (h m List.mem_cons_self)).cons (c := ',') (by decide) (by decide)).append
      (ih fun m' hm' => h m' (List.mem_cons_of_mem m hm'))

theorem kept_membersChars {members : List (String × Value)} (h : ∀ m ∈ members, Kept m.2.chars) :
    Kept (Value.membersChars members) := by
  cases members with
  | nil => exact kept_nil
  | cons m members =>
    rw [membersChars_cons]
    exact (kept_member m.1 (h m List.mem_cons_self)).append
      (kept_membersTail fun m' hm' => h m' (List.mem_cons_of_mem m hm'))

/-- The bytes of a value's text are read as that text. -/
theorem Fits.kept {depth : Nat} {v : Value} (h : Fits depth v) : Kept v.chars := by
  induction h with
  | null => exact kept_ascii (show ∀ c ∈ ['n', 'u', 'l', 'l'], _ from by simp)
  | bool b =>
    cases b with
    | true => exact kept_ascii (show ∀ c ∈ ['t', 'r', 'u', 'e'], _ from by simp)
    | false => exact kept_ascii (show ∀ c ∈ ['f', 'a', 'l', 's', 'e'], _ from by simp)
  | @number depth n hn =>
    rw [Value.chars, natChars]
    exact kept_digits fun c => Nat.isDigit_of_mem_toDigits (by decide) (by decide)
  | string s => exact kept_string s
  | array h ih =>
    exact ((kept_itemsChars ih).append (kept_char (c := ']') (by decide) (by decide))).cons
      (by decide) (by decide)
  | object h ih =>
    exact ((kept_membersChars ih).append (kept_char (c := '\x7d') (by decide) (by decide))).cons
      (by decide) (by decide)

/-- **Written text survives as bytes.** -/
theorem ofBytes_text {depth : Nat} {v : Value} (h : Fits depth v) :
    ofBytes (encode v.text) = v.text := by
  have hkept := h.kept []
  rw [List.append_nil] at hkept
  rw [Value.text, encode_ofList, ofBytes, hkept]
  simp [charsFrom]

end ChatServer.Json

