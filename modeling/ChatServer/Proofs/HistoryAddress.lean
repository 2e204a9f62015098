import ChatServer.Proofs.JsonBytes
import ChatServer.Proofs.Numerals
import ChatServer.Web.Service
import Mathlib.Data.List.TakeWhile

/-!
# The address of a history

Identifiers and decimal numbers are made of letters, digits and hyphens. Such
characters separate nothing in an address and are no escapes, so that they are
read as they stand: a path that names a channel is read as that channel, and a
limit in a query as that number.

* `parts_historyTarget`, `ofPath?_history`: the path of a channel's messages.
* `AsksNewest.readQuery`, `asksNewest_limitQuery`: a query for so many messages,
  and 50 where none are said.
-/
namespace ChatServer.Web

open Text

namespace Address

theorem splitAll_cons {mark c : Char} {cs field : List Char} {rest : List (List Char)}
    (h : splitAll mark cs = field :: rest) :
    splitAll mark (c :: cs) = if c = mark then [] :: field :: rest else (c :: field) :: rest := by
  rw [splitAll, List.foldr_cons, ← splitAll, h]

/-- A text that does not hold the mark is one field. -/
theorem splitAll_of_not_mem {mark : Char} {cs : List Char} (h : mark ∉ cs) :
    splitAll mark cs = [cs] := by
  induction cs with
  | nil => rfl
  | cons c cs ih =>
    rw [List.mem_cons, not_or] at h
    rw [splitAll_cons (ih h.2), if_neg (Ne.symm h.1)]

/-- A field ends at the first mark. -/
theorem splitAll_append {mark : Char} {cs : List Char} (h : mark ∉ cs) (rest : List Char) :
    splitAll mark (cs ++ mark :: rest) = cs :: splitAll mark rest := by
  obtain ⟨field, fields, hrest⟩ : ∃ field fields, splitAll mark rest = field :: fields := by
    induction rest with
    | nil => exact ⟨[], [], rfl⟩
    | cons c rest ih =>
      obtain ⟨field, fields, hrest⟩ := ih
      rw [splitAll_cons hrest]
      split
      · exact ⟨_, _, rfl⟩
      · exact ⟨_, _, rfl⟩
  induction cs with
  | nil => rw [List.nil_append, splitAll_cons hrest, if_pos rfl, hrest]
  | cons c cs ih =>
    rw [List.mem_cons, not_or] at h
    rw [List.cons_append, splitAll_cons (ih h.2), if_neg (Ne.symm h.1)]

theorem splitFirst_append {mark : Char} {cs : List Char} (h : mark ∉ cs) (rest : List Char) :
    splitFirst mark (cs ++ mark :: rest) = (cs, rest) := by
  have hcs : ∀ c ∈ cs, decide (c ≠ mark) = true := fun c hc => decide_eq_true fun he => h (he ▸ hc)
  rw [splitFirst, List.takeWhile_append_of_pos hcs, List.dropWhile_append_of_pos hcs,
    List.takeWhile_cons_of_neg (by simp), List.dropWhile_cons_of_neg (by simp), List.append_nil]
  rfl

theorem splitFirst_of_not_mem {mark : Char} {cs : List Char} (h : mark ∉ cs) :
    splitFirst mark cs = (cs, []) := by
  have hcs : ∀ c ∈ cs, decide (c ≠ mark) = true := fun c hc => decide_eq_true fun he => h (he ▸ hc)
  rw [splitFirst, List.takeWhile_eq_self_iff.2 hcs, List.dropWhile_eq_nil_iff.2 hcs, List.drop_nil]

/-- Letters, digits and hyphens stand for themselves in addresses. -/
def isLiteral (c : Char) : Bool := c.isAlphanum || c == '-'

section
variable {cs : List Char} (h : ∀ c ∈ cs, isLiteral c = true)
include h

theorem not_mem_of_literal {mark : Char} (hmark : isLiteral mark = false) : mark ∉ cs := by
  intro hin
  rw [h mark hin] at hmark
  cases hmark

theorem ascii_of_literal : ∀ c ∈ cs, c.toNat ≤ 127 := by
  intro c hc
  have hliteral := h c hc
  simp only [isLiteral, Char.isAlphanum] at hliteral
  delta Char.isAlpha at hliteral
  delta Char.isUpper Char.isLower at hliteral
  simp only [Char.isDigit, Bool.or_eq_true, Bool.and_eq_true, decide_eq_true_eq, beq_iff_eq,
    ge_iff_le,
    UInt32.le_iff_toNat_le] at hliteral
  rcases hliteral with ((⟨-, hle⟩ | ⟨-, hle⟩) | ⟨-, hle⟩) | rfl
  · exact Nat.le_trans hle (by decide)
  · exact Nat.le_trans hle (by decide)
  · exact Nat.le_trans hle (by decide)
  · decide

/-- A part of a path that is literal is read as it stands. -/
theorem segmentText?_literal : segmentText? cs = some (String.ofList cs) := by
  have hbytes : percent ∉ Utf8.encode (String.ofList cs) := by
    rw [Utf8.encode_ofList, Utf8.bytesOf, List.mem_flatMap]
    rintro ⟨c, hc, hin⟩
    rw [Json.encodeChar_ascii (ascii_of_literal h c hc), List.mem_singleton] at hin
    have hpercent : '%' ∉ cs := not_mem_of_literal h (by decide)
    have hne : c ≠ '%' := fun he => hpercent (he ▸ hc)
    exact Json.byte_ne (ascii_of_literal h c hc) (d := '%') (by decide) hne hin.symm
  rw [segmentText?, unescape_plain hbytes, Utf8.encode_ofList, Utf8.decode?_bytesOf]

/-- So is a name or value in a query. -/
theorem fieldText_literal : fieldText cs = String.ofList cs := by
  have hplus : '+' ∉ cs := not_mem_of_literal h (by decide)
  have hspaced : (cs.map fun c => if c = '+' then ' ' else c) = cs := by
    refine (List.map_congr_left fun c hc => if_neg fun he => ?_).trans (List.map_id cs)
    exact hplus (he ▸ hc)
  rw [fieldText, hspaced, segmentText?_literal h, Option.getD_some]

end

theorem isLiteral_of_isDigit {c : Char} (h : c.isDigit = true) : isLiteral c = true := by
  simp [isLiteral, Char.isAlphanum, h]

theorem isLiteral_toDigits (n : Nat) : ∀ c ∈ Nat.toDigits 10 n, isLiteral c = true := fun _ hc =>
  isLiteral_of_isDigit (Nat.isDigit_of_mem_toDigits (by decide) (by decide) hc)

theorem isLiteral_digit (d : Fin 16) : isLiteral (Hex.digit d) = true := by
  revert d
  decide

theorem isLiteral_uuid (id : Uuid) : ∀ c ∈ id.chars, isLiteral c = true := by
  intro c hc
  have hplace : c ∈ id.digits.map Hex.digit ∨ c = '-' := by
    simp only [Uuid.chars, Uuid.hyphenate, List.mem_append, List.mem_cons] at hc
    rcases hc with (((hc | rfl | hc) | rfl | hc) | rfl | hc) | rfl | hc
    · exact .inl (List.mem_of_mem_take hc)
    · exact .inr rfl
    · exact .inl (List.mem_of_mem_drop (List.mem_of_mem_take hc))
    · exact .inr rfl
    · exact .inl (List.mem_of_mem_drop (List.mem_of_mem_take hc))
    · exact .inr rfl
    · exact .inl (List.mem_of_mem_drop (List.mem_of_mem_take hc))
    · exact .inr rfl
    · exact .inl (List.mem_of_mem_drop hc)
  rcases hplace with hdigit | rfl
  · obtain ⟨d, -, rfl⟩ := List.mem_map.1 hdigit
    exact isLiteral_digit d
  · decide

end Address

/-! ## The address of a history -/

open Address

def historyPath (channelId : Uuid) : List Char :=
  ['/', 'a', 'p', 'i', '/', 'c', 'h', 'a', 'n', 'n', 'e', 'l', 's', '/'] ++ channelId.chars ++
    ['/', 'm', 'e', 's', 's', 'a', 'g', 'e', 's']

/-- A query for so many messages, or one that does not say how many. -/
def limitQuery : Option Nat → List Char
  | none => []
  | some n => ['l', 'i', 'm', 'i', 't', '='] ++ Nat.toDigits 10 n

def historyTarget (channelId : Uuid) (limit : Option Nat) : String :=
  String.ofList
    (if limit.isSome then historyPath channelId ++ '?' :: limitQuery limit
      else historyPath channelId)

/-- Words that are literal but for one mark hold no other mark. -/
theorem not_mem_of_words {cs : List Char} {own mark : Char}
    (h : cs.all (fun c => c == own || isLiteral c) = true)
    (hmark : isLiteral mark = false) (hown : mark ≠ own) : mark ∉ cs := by
  intro hin
  have hword := List.all_eq_true.1 h mark hin
  rw [hmark, Bool.or_false, beq_iff_eq] at hword
  exact hown hword

theorem not_mem_historyPath (channelId : Uuid) {mark : Char} (hmark : isLiteral mark = false)
    (hslash : mark ≠ '/') :
    mark ∉ historyPath channelId := by
  rw [historyPath, List.mem_append, List.mem_append, not_or, not_or]
  refine ⟨⟨?_, ?_⟩, ?_⟩
  · exact not_mem_of_words (by decide) hmark hslash
  · exact not_mem_of_literal (isLiteral_uuid channelId) hmark
  · exact not_mem_of_words (by decide) hmark hslash

theorem not_mem_limitQuery (limit : Option Nat) {mark : Char} (hmark : isLiteral mark = false)
    (hequals : mark ≠ '=') : mark ∉ limitQuery limit := by
  cases limit with
  | none => exact List.not_mem_nil
  | some n =>
    rw [limitQuery, List.mem_append, not_or]
    refine ⟨?_, ?_⟩
    · exact not_mem_of_words (by decide) hmark hequals
    · exact not_mem_of_literal (isLiteral_toDigits n) hmark

theorem parts_historyTarget (channelId : Uuid) (limit : Option Nat) :
    parts (historyTarget channelId limit) = (historyPath channelId, limitQuery limit) := by
  have hpath : '?' ∉ historyPath channelId := not_mem_historyPath channelId (by decide) (by decide)
  have hwhole {cs : List Char} (h : '#' ∉ cs) : cs.takeWhile (· ≠ '#') = cs :=
    List.takeWhile_eq_self_iff.2 fun c hc => decide_eq_true fun he => h (he ▸ hc)
  have hfragment : '#' ∉ historyPath channelId :=
    not_mem_historyPath channelId (by decide) (by decide)
  rw [parts, historyTarget, String.toList_ofList]
  cases limit with
  | none =>
    have hlocal : localPart (historyPath channelId) = historyPath channelId := rfl
    rw [if_neg (by simp), hlocal, hwhole hfragment, splitFirst_of_not_mem hpath]
    rfl
  | some n =>
    have hquery : '#' ∉ limitQuery (some n) := not_mem_limitQuery (some n) (by decide) (by decide)
    have hall : '#' ∉ historyPath channelId ++ '?' :: limitQuery (some n) := by
      rw [List.mem_append, List.mem_cons, not_or, not_or]
      exact ⟨hfragment, by decide, hquery⟩
    have hlocal : localPart (historyPath channelId ++ '?' :: limitQuery (some n)) =
        historyPath channelId ++ '?' :: limitQuery (some n) := rfl
    rw [if_pos (by simp), hlocal, hwhole hall, splitFirst_append hpath]

theorem ofPath?_history (channelId : Uuid) :
    Route.ofPath? (historyPath channelId) = some (.messages channelId.chars) := by
  have hslash : '/' ∉ channelId.chars := not_mem_of_literal (isLiteral_uuid channelId) (by decide)
  have hsegments : segments (historyPath channelId) =
    [['a', 'p', 'i'], ['c', 'h', 'a', 'n', 'n', 'e', 'l', 's'],
      channelId.chars, ['m', 'e', 's', 's', 'a', 'g', 'e', 's']] := by
    have hpath : historyPath channelId = [] ++ '/' :: (['a', 'p', 'i'] ++ '/' ::
        (['c', 'h', 'a', 'n', 'n', 'e', 'l', 's'] ++ '/' ::
          (channelId.chars ++ '/' :: ['m', 'e', 's', 's', 'a', 'g', 'e', 's']))) := by
      simp [historyPath]
    rw [segments, hpath, splitAll_append List.not_mem_nil, splitAll_append (by decide),
      splitAll_append (by decide),
      splitAll_append hslash, splitAll_of_not_mem (by decide)]
    rfl
  have hnamed : (String.ofList channelId.chars).isEmpty = false := by
    have hne : channelId.chars ≠ [] := by simp [Uuid.chars, Uuid.hyphenate]
    simpa [← String.toList_eq_nil_iff] using hne
  rw [Route.ofPath?, hsegments]
  show (if (String.ofList channelId.chars).isEmpty then none else some _) = _
  rw [hnamed, String.toList_ofList]
  rfl

/-- The fields of a query for the newest messages. No cursor stands among them,
and a limit only if there is one. -/
structure AsksNewest (fields : List (String × String)) (limit : Option Nat) : Prop where
  limit : ∃ text, fieldOnce? fields "limit" = .ok text ∧
    text.map (fun value => Integer.read (.unsigned 32) value.toList) = limit.map fun n =>
      .ok (n : Int)
  cursor : fieldOnce? fields "before" = .ok none

/-- Without a limit, 50 messages are asked for. -/
theorem AsksNewest.readQuery {fields : List (String × String)} {limit : Option Nat}
    (h : AsksNewest fields limit) :
    readQuery fields = .ok ⟨limit.getD 50, none⟩ := by
  obtain ⟨⟨text, hlimit, hread⟩, hcursor⟩ := h
  rw [Web.readQuery, hlimit, hcursor]
  cases text with
  | none =>
    cases limit with
    | none => rfl
    | some n => cases hread
  | some value =>
    cases limit with
    | none => cases hread
    | some n =>
      have hvalue : Integer.read (.unsigned 32) value.toList = .ok (n : Int) :=
        Option.some.inj hread
      simp [hvalue, bind, Except.bind, pure, Except.pure, Except.map, Except.mapError]

theorem asksNewest_limitQuery (limit : Option Nat) (h : ∀ n ∈ limit, n ≤ 0xffffffff) :
    AsksNewest (fields (limitQuery limit)) limit := by
  cases limit with
  | none => exact ⟨⟨none, rfl, rfl⟩, rfl⟩
  | some n =>
    have hbound := h n rfl
    have hand : '&' ∉ limitQuery (some n) := not_mem_limitQuery (some n) (by decide) (by decide)
    have hfields : fields (limitQuery (some n)) =
        [("limit", String.ofList (Nat.toDigits 10 n))] := by
      have hquery : limitQuery (some n) =
          ['l', 'i', 'm', 'i', 't'] ++ '=' :: Nat.toDigits 10 n := rfl
      have hname : fieldText ['l', 'i', 'm', 'i', 't'] = "limit" :=
        fieldText_literal (List.all_eq_true.1 (by decide))
      have hsplit : splitFirst '=' (limitQuery (some n)) =
          (['l', 'i', 'm', 'i', 't'], Nat.toDigits 10 n) := by
        rw [hquery]
        exact splitFirst_append (by decide) _
      have hwritten : (limitQuery (some n)).isEmpty = false := by rw [hquery]; rfl
      rw [fields, splitAll_of_not_mem hand]
      simp [hwritten, hsplit, hname, fieldText_literal (isLiteral_toDigits n)]
    have hread : Integer.read (.unsigned 32) (Nat.toDigits 10 n) = .ok (n : Int) := by
      have hhigh : (Integer.Range.unsigned 32).high = 0xffffffff := by decide
      have hheld : (Integer.Range.unsigned 32).Holds n :=
        ⟨Int.natCast_nonneg n, by rw [hhigh]; omega⟩
      exact Integer.read_toDigits (Integer.Range.holds_unsigned 32) hheld
    rw [hfields]
    refine ⟨⟨some (String.ofList (Nat.toDigits 10 n)), rfl, ?_⟩, rfl⟩
    rw [Option.map_some, String.toList_ofList, hread]
    rfl

end ChatServer.Web

