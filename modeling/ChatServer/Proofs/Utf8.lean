import ChatServer.Proofs.JsonBytes

/-!
# Texts and their bytes

Bytes are read as a text only where they are the bytes of that text: no
character has two forms, and bytes that are not the form of any are refused.

* `leads_of_lead`: what the first byte of a character settles.
* `exists_char`: what is read next are the bytes of a character.
* `decode?_eq_some_iff`: the bytes that are read as a text.
-/
namespace ChatServer.Text.Utf8

/-! ## First bytes -/

/-- What a first byte of this number settles: how many bytes are owed, and the
bounds on the next, which leave out the forms that are too long, halves of
pairs, and numbers above the last character. -/
inductive Leads (n : Nat) : State → List Char → Prop
  | one (hn : n < 0x80) : Leads n .start [Char.ofNat n]
  | two (hn : 0xC2 ≤ n ∧ n < 0xE0) : Leads n (.owing 1 0x80 0xBF (n - 0xC0)) []
  | three {low high : Nat} (hn : 0xE0 ≤ n ∧ n < 0xF0) (hrange : 0x80 ≤ low ∧ high ≤ 0xBF)
    (hlow : n = 0xE0 → 0xA0 ≤ low) (hhigh : n = 0xED → high ≤ 0x9F) :
    Leads n (.owing 2 low high (n - 0xE0)) []
  | four {low high : Nat} (hn : 0xF0 ≤ n ∧ n ≤ 0xF4) (hrange : 0x80 ≤ low ∧ high ≤ 0xBF)
    (hlow : n = 0xF0 → 0x90 ≤ low) (hhigh : n = 0xF4 → high ≤ 0x8F) :
    Leads n (.owing 3 low high (n - 0xF0)) []

theorem leads_of_lead {n : Nat} {s : State} {cs : List Char} (h : lead n = some (s, cs)) :
    Leads n s cs := by
  unfold lead at h
  split at h
  · cases h
    exact .one ‹_›
  split at h
  · cases h
  split at h
  · cases h
    exact .two (by omega)
  split at h
  · next hn =>
    cases h
    subst hn
    exact .three (by decide) (by decide) (by decide) (by decide)
  split at h
  · next hn =>
    cases h
    subst hn
    exact .three (by decide) (by decide) (by decide) (by decide)
  split at h
  · cases h
    exact .three (by omega) (by decide) (by omega) (by omega)
  split at h
  · next hn =>
    cases h
    subst hn
    exact .four (by decide) (by decide) (by decide) (by decide)
  split at h
  · cases h
    exact .four (by omega) (by decide) (by omega) (by omega)
  split at h
  · next hn =>
    cases h
    subst hn
    exact .four (by decide) (by decide) (by decide) (by decide)
  · cases h

/-! ## Bytes that complete a character -/

section
variable {bs : List UInt8} {cs : List Char} {low high value : Nat}

theorem feedAll_cons_eq_some {s s' : State} {b : UInt8} (h : feedAll s (b :: bs) = some (s', cs)) :
    ∃ next first rest, feed s b = some (next, first) ∧ feedAll next bs = some (s', rest) ∧
      cs = first ++ rest := by
  rw [feedAll] at h
  cases hb : feed s b with
  | none => simp [hb] at h
  | some p =>
    cases hbs : feedAll p.1 bs with
    | none => simp [hb, hbs] at h
    | some q =>
      simp only [hb, hbs, Option.bind_eq_bind, Option.bind_some, Option.pure_def, Option.some.injEq,
        Prod.mk.injEq] at h
      obtain ⟨rfl, rfl⟩ := h
      exact ⟨p.1, p.2, q.2, rfl, hbs, rfl⟩

/-- A byte is owed, so there is one, within its bounds. -/
theorem owed_more {k : Nat} (h : feedAll (.owing (k + 2) low high value) bs = some (.start, cs)) :
    ∃ b rest, bs = b :: rest ∧ low ≤ b.toNat ∧ b.toNat ≤ high ∧
      feedAll (.owing (k + 1) 0x80 0xBF (value * 0x40 + (b.toNat - 0x80))) rest =
        some (.start, cs) := by
  cases bs with
  | nil => cases h
  | cons b bs =>
    obtain ⟨next, first, rest, hfeed, hrest, rfl⟩ := feedAll_cons_eq_some h
    rw [feed] at hfeed
    split at hfeed
    · next hb =>
      rw [if_neg (by omega)] at hfeed
      cases hfeed
      exact ⟨b, bs, rfl, hb.1, hb.2, hrest⟩
    · cases hfeed

/-- The last byte that is owed completes the character. -/
theorem owed_last (h : feedAll (.owing 1 low high value) bs = some (.start, cs)) :
    ∃ b rest tail, bs = b :: rest ∧ low ≤ b.toNat ∧ b.toNat ≤ high ∧
      cs = Char.ofNat (value * 0x40 + (b.toNat - 0x80)) :: tail ∧
        feedAll .start rest = some (.start, tail) := by
  cases bs with
  | nil => cases h
  | cons b bs =>
    obtain ⟨next, first, rest, hfeed, hrest, rfl⟩ := feedAll_cons_eq_some h
    rw [feed] at hfeed
    split at hfeed
    · next hb =>
      rw [if_pos (Nat.le_refl 1)] at hfeed
      cases hfeed
      exact ⟨b, bs, rest, rfl, hb.1, hb.2, rfl, hrest⟩
    · cases hfeed

end

/-! ## Bytes of a character -/

theorem toNat_ofNat {v : Nat} (h : v < 0xD800 ∨ (0xDFFF < v ∧ v < 0x110000)) :
    (Char.ofNat v).val.toNat = v := by
  rw [Char.ofNat, dif_pos h]
  rfl

/-- A byte is known by its number. -/
theorem byte_eq {n : Nat} {b : UInt8} (h : n = b.toNat) : UInt8.ofNat n = b := by
  rw [h, UInt8.ofNat_toNat]

theorem encodeChar_one {a : UInt8} (ha : a.toNat < 0x80) :
    String.utf8EncodeChar (Char.ofNat a.toNat) = [a] := by
  rw [String.utf8EncodeChar, toNat_ofNat (by omega), if_pos (by omega), UInt8.ofNat_toNat]

theorem encodeChar_two {a b : UInt8} (ha : 0xC2 ≤ a.toNat ∧ a.toNat < 0xE0)
    (hb : 0x80 ≤ b.toNat ∧ b.toNat ≤ 0xBF) :
    String.utf8EncodeChar (Char.ofNat ((a.toNat - 0xC0) * 0x40 + (b.toNat - 0x80))) = [a, b] := by
  rw [String.utf8EncodeChar, toNat_ofNat (by omega), if_neg (by omega), if_pos (by omega),
    byte_eq (b := a) (by omega), byte_eq (b := b) (by omega)]

theorem encodeChar_three {a b c : UInt8} (ha : 0xE0 ≤ a.toNat ∧ a.toNat < 0xF0)
    (hb : 0x80 ≤ b.toNat ∧ b.toNat ≤ 0xBF) (hlow : a.toNat = 0xE0 → 0xA0 ≤ b.toNat)
    (hhigh : a.toNat = 0xED → b.toNat ≤ 0x9F) (hc : 0x80 ≤ c.toNat ∧ c.toNat ≤ 0xBF) :
    String.utf8EncodeChar
      (Char.ofNat (((a.toNat - 0xE0) * 0x40 + (b.toNat - 0x80)) * 0x40 + (c.toNat - 0x80))) =
      [a, b, c] := by
  rw [String.utf8EncodeChar, toNat_ofNat (by omega), if_neg (by omega), if_neg (by omega),
    if_pos (by omega),
    byte_eq (b := a) (by omega), byte_eq (b := b) (by omega), byte_eq (b := c) (by omega)]

theorem encodeChar_four {a b c d : UInt8} (ha : 0xF0 ≤ a.toNat ∧ a.toNat ≤ 0xF4)
    (hb : 0x80 ≤ b.toNat ∧ b.toNat ≤ 0xBF) (hlow : a.toNat = 0xF0 → 0x90 ≤ b.toNat)
    (hhigh : a.toNat = 0xF4 → b.toNat ≤ 0x8F) (hc : 0x80 ≤ c.toNat ∧ c.toNat ≤ 0xBF)
    (hd : 0x80 ≤ d.toNat ∧ d.toNat ≤ 0xBF) :
    String.utf8EncodeChar (Char.ofNat
      ((((a.toNat - 0xF0) * 0x40 + (b.toNat - 0x80)) * 0x40 + (c.toNat - 0x80)) * 0x40 +
        (d.toNat - 0x80))) = [a, b, c, d] := by
  rw [String.utf8EncodeChar, toNat_ofNat (by omega), if_neg (by omega), if_neg (by omega),
    if_neg (by omega),
    byte_eq (b := a) (by omega), byte_eq (b := b) (by omega), byte_eq (b := c) (by omega),
    byte_eq (b := d) (by omega)]

/-! ## Texts -/

/-- What is read next are the bytes of a character. -/
theorem exists_char {b : UInt8} {bs : List UInt8} {cs : List Char}
    (h : feedAll .start (b :: bs) = some (.start, cs)) :
    ∃ c rest tail, b :: bs = String.utf8EncodeChar c ++ rest ∧ cs = c :: tail ∧
      feedAll .start rest = some (.start, tail) := by
  obtain ⟨next, first, rest, hfeed, hrest, rfl⟩ := feedAll_cons_eq_some h
  cases leads_of_lead hfeed with
  | one hn => exact ⟨_, bs, rest, by rw [encodeChar_one hn, List.singleton_append], rfl, hrest⟩
  | two hn =>
    obtain ⟨b₁, bs, tail, rfl, hlow₁, hhigh₁, rfl, htail⟩ := owed_last hrest
    exact ⟨_, bs, tail, by rw [encodeChar_two hn ⟨hlow₁, hhigh₁⟩]; rfl, rfl, htail⟩
  | three hn hrange hlow hhigh =>
    obtain ⟨b₁, bs, rfl, hlow₁, hhigh₁, hrest⟩ := owed_more hrest
    obtain ⟨b₂, bs, tail, rfl, hlow₂, hhigh₂, rfl, htail⟩ := owed_last hrest
    refine ⟨_, bs, tail, ?_, rfl, htail⟩
    rw [encodeChar_three hn (by omega) (by omega) (by omega) ⟨hlow₂, hhigh₂⟩]
    rfl
  | four hn hrange hlow hhigh =>
    obtain ⟨b₁, bs, rfl, hlow₁, hhigh₁, hrest⟩ := owed_more hrest
    obtain ⟨b₂, bs, rfl, hlow₂, hhigh₂, hrest⟩ := owed_more hrest
    obtain ⟨b₃, bs, tail, rfl, hlow₃, hhigh₃, rfl, htail⟩ := owed_last hrest
    refine ⟨_, bs, tail, ?_, rfl, htail⟩
    rw [encodeChar_four hn (by omega) (by omega) (by omega) ⟨hlow₂, hhigh₂⟩ ⟨hlow₃, hhigh₃⟩]
    rfl

/-- Bytes that are read to the end of a character are the bytes of what is
read. -/
theorem eq_bytesOf {bs : List UInt8} {cs : List Char} (h : feedAll .start bs = some (.start, cs)) :
    bs = bytesOf cs := by
  induction cs generalizing bs with
  | nil =>
    cases bs with
    | nil => rfl
    | cons b bs =>
      obtain ⟨c, rest, tail, -, hcs, -⟩ := exists_char h
      cases hcs
  | cons c cs ih =>
    cases bs with
    | nil => cases h
    | cons b bs =>
      obtain ⟨c', rest, tail, hbs, hcs, hrest⟩ := exists_char h
      cases hcs
      rw [hbs, bytesOf_cons, ih hrest]

/-- Bytes are read as a text exactly where they are its bytes. -/
theorem decode?_eq_some_iff {bs : List UInt8} {text : String} :
    decode? bs = some text ↔ bs = encode text := by
  constructor
  · intro h
    unfold decode? at h
    split at h
    · next cs hcs =>
      cases h
      rw [encode_ofList]
      exact eq_bytesOf hcs
    · cases h
  · rintro rfl
    rw [← String.ofList_toList (s := text), encode_ofList, decode?_bytesOf]

/-- Bytes that are not read as a text are the bytes of none. -/
theorem decode?_eq_none_iff {bs : List UInt8} : decode? bs = none ↔ ∀ text, bs ≠ encode text := by
  simp only [Option.eq_none_iff_forall_ne_some, ne_eq, decode?_eq_some_iff]

end ChatServer.Text.Utf8

