import ChatServer.Account.Access
import ChatServer.Proofs.JsonBytes
import ChatServer.Proofs.JsonRoundTrip
import ChatServer.Proofs.Ledger

/-!
# The life of a token

A token that was issued is read back under its secret: it has its three parts,
its header names the signing method, its signature is the one that is made
again, and its claims are those that went in. What is left to decide is the end
of its life, which the claims hold as a word without a sign. From 1970 on that
word is the end itself, and a token admits until a minute after it. An end
before 1970 wraps around to a word that no clock reaches, so such a token, which
has ended before it was issued, admits for ever.

* `check_sign`: what is checked of a token that this secret has signed.
* `expiryWord_lt_iff`: when the word of an end is behind the clock.
* `admits_until_end`: whom an issued token admits, and until when.
-/
namespace ChatServer.Text.Base64

/-! ## Parts -/

theorem letter_ne_point {n : Nat} (h : n < 64) : Alphabet.url.letter n ≠ '.' := by
  have all : ∀ n, n < 64 → Alphabet.url.letter n ≠ '.' := by decide
  exact all n h

/-- No point stands in the letters of bytes, so points keep parts apart. -/
theorem point_not_mem (bytes : List UInt8) : ∀ c ∈ encode .url bytes, c ≠ '.' := by
  fun_induction encode .url bytes with
  | case1 => simp
  | case2 x =>
    have hx := x.toNat_lt
    simp only [List.mem_cons, List.not_mem_nil, or_false, forall_eq_or_imp, forall_eq]
    exact ⟨letter_ne_point (by omega), letter_ne_point (by omega)⟩
  | case3 x y =>
    have hx := x.toNat_lt
    have hy := y.toNat_lt
    simp only [List.mem_cons, List.not_mem_nil, or_false, forall_eq_or_imp, forall_eq]
    exact ⟨letter_ne_point (by omega), letter_ne_point (by omega), letter_ne_point (by omega)⟩
  | case4 x y z rest ih =>
    have hx := x.toNat_lt
    have hy := y.toNat_lt
    have hz := z.toNat_lt
    simp only [List.mem_cons, forall_eq_or_imp]
    exact ⟨letter_ne_point (by omega), letter_ne_point (by omega), letter_ne_point (by omega),
      letter_ne_point (by omega), ih⟩

end ChatServer.Text.Base64

namespace ChatServer.Account.Token

open Json Json.Fields Text Time Store

theorem toList_part (s : String) : (part s).toList = Base64.encode .url (Utf8.encode s) := by
  rw [part, String.toList_ofList]

/-- The part of a value's text is read as that text. -/
theorem partText_part {depth : Nat} {v : Value} (h : Fits depth v) :
    partText (part v.text).toList = .ok v.text := by
  rw [partText, toList_part, Base64.decode?_encode]
  simp only [ofBytes_text h]

theorem splitLast?_point {a b : List Char} (h : ∀ c ∈ b, c ≠ '.') :
    splitLast? (a ++ '.' :: b) = some (a, b) := by
  have hb : ∀ c ∈ b.reverse, decide (c ≠ '.') = true :=
    fun c hc => decide_eq_true (h c (List.mem_reverse.1 hc))
  have htail : (a ++ '.' :: b).reverse.takeWhile (fun c => decide (c ≠ '.')) = b.reverse := by
    rw [List.reverse_append, List.reverse_cons, List.append_assoc, List.singleton_append,
      List.takeWhile_append_of_pos hb, List.takeWhile_cons_of_neg (by decide), List.append_nil]
  have hlength : (a ++ '.' :: b).length - b.length - 1 = a.length := by
    rw [List.length_append, List.length_cons]
    omega
  rw [splitLast?, htail, List.length_reverse,
    if_neg (by rw [List.length_append, List.length_cons]; omega), hlength,
    List.reverse_reverse, List.take_left]

/-! ## Claims -/

theorem encode_claims (c : Claims) : Claims.codec.encode c =
    .object [("sub", .string c.subject.text), ("email", .string c.email),
      ("exp", .number (.integer c.expiry))] :=
  rfl

theorem fits_claims {c : Claims} (h : c.expiry ≤ wordLimit) :
    Fits depthLimit (Claims.codec.encode c) := by
  rw [encode_claims]
  exact AllFit.object <| .cons (.string _) <| .cons (.string _) <| .cons (.number h) allFit_nil

/-- The members of claims as the registered claims take them: the email is
passed over. -/
theorem takes_registered {n : Nat} (hn : n ≤ wordLimit) (subject email : String) (depth : Nat) :
    Takes (registeredFields.recordMember (depth + 1)) registeredFields.emptySlots
      [("sub", .string subject), ("email", .string email), ("exp", .number (.integer n))]
      (some (some (.number (.integer n))), none, some (some (.string subject)), none,
        none, ()) := by
  have hsub : Codec.any.attempt.Reads (depth + 1) (.string subject) (some (.string subject)) :=
    (reads_any subject).attempt
  have hexp : Codec.scalar.attempt.Reads (depth + 1) (.number (.integer n))
      (some (.number (.integer n))) :=
    (reads_scalar hn).attempt
  have hfirst : ∀ rest, Ends rest →
    registeredFields.recordMember (depth + 1) registeredFields.emptySlots "sub"
      (':' :: (Value.string subject).chars ++ rest) =
        .ok ((none, none, some (some (.string subject)), none, none, ()), rest) :=
    fun _ hr => recordMember_behind (by decide)
      (recordMember_behind (by decide) (recordMember_own hsub _ hr))
  have hsecond : ∀ rest, Ends rest → registeredFields.recordMember (depth + 1)
      (none, none, some (some (.string subject)), none, none, ()) "email"
      (':' :: (Value.string email).chars ++ rest) =
        .ok ((none, none, some (some (.string subject)), none, none, ()), rest) :=
    fun rest _ => recordMember_behind (by decide) (recordMember_behind (by decide)
      (recordMember_behind (by decide) (recordMember_behind (by decide)
        (recordMember_behind (by decide) (recordMember_nil "email" email rest)))))
  exact .cons hfirst (.cons hsecond (.cons (fun _ hr => recordMember_own hexp _ hr) .nil))

/-- Claims that were written are read back, and name no audience. -/
theorem claims_write {c : Claims} (h : c.expiry ≤ wordLimit) :
    claims (Claims.codec.write c) = .ok (c, false) := by
  have hclaims : Claims.codec.parse (Claims.codec.write c) = .ok c :=
    (Claims.readsBack h).parse_write
  have hregistered : (Codec.record "Registered" registeredFields).parse (Claims.codec.write c) =
      .ok (some (.number (.integer c.expiry)), none, some (.string c.subject.text), none,
        none, ()) :=
    (reads_record (takes_registered h c.subject.text c.email 126) rfl).parse
  simp only [claims, readPart, hclaims, hregistered]
  rfl

/-! ## Checking -/

theorem partText_header : partText (part header).toList = .ok header := by
  have htext : header = (Value.object [("typ", .string "JWT"), ("alg", .string "HS256")]).text := rfl
  have hfits : Fits depthLimit (.object [("typ", .string "JWT"), ("alg", .string "HS256")]) :=
    AllFit.object <| .cons (.string _) <| .cons (.string _) allFit_nil
  rw [htext, partText_part hfits]

theorem algorithm_header : algorithm header = .ok "HS256" := rfl

/-- A token of this secret is as good as its claims are in time. -/
theorem check_sign (secret : String) (now : Instant) {c : Claims} (h : c.expiry ≤ wordLimit) :
    check secret now (sign secret c) =
      if (c.expiry : Int) < now.unixSeconds - leeway then .error .expired else .ok c := by
  have hsigned : (part header ++ "." ++ part (Claims.codec.write c)).toList =
      (part header).toList ++ '.' :: (part (Claims.codec.write c)).toList := by
    simp [String.toList_append]
  have hclaims : partText (part (Claims.codec.write c)).toList = .ok (Claims.codec.write c) :=
    partText_part (fits_claims h)
  have hpart (s : String) : ∀ c ∈ (part s).toList, c ≠ '.' := by
    rw [toList_part]
    exact Base64.point_not_mem _
  have hmark (text : List Char) : ∀ c ∈ signature secret text, c ≠ '.' := Base64.point_not_mem _
  have htoken : (sign secret c).toList =
    (part header ++ "." ++ part (Claims.codec.write c)).toList ++
      '.' :: signature secret (part header ++ "." ++ part (Claims.codec.write c)).toList := by
    simp [sign, String.toList_append]
  rw [check, htoken, splitLast?_point (hmark _)]
  dsimp only
  rw [hsigned, splitLast?_point (hpart _)]
  simp only [partText_header, algorithm_header, checkClaims, hclaims, claims_write h, bind,
    Except.bind, ne_eq,
    not_true_eq_false, if_false, Bool.false_eq_true]

theorem sign_ne_empty (secret : String) (c : Claims) : sign secret c ≠ "" := by
  intro he
  have hlength := congrArg (fun s => s.toList.length) he
  simp [sign, String.toList_append] at hlength

/-! ## The end of life -/

/-- No clock shows a time as late as the words of ends before 1970. -/
theorem unixSeconds_lt (t : Instant) : t.unixSeconds < 10000000000000 := by
  have hyear := t.date.year_mem
  have hmonth := t.date.month_mem
  have hday := Nat.le_trans t.date.day_mem.2 (daysInMonth_le t.date.year t.date.month)
  have hsecond := t.second_lt
  unfold maxYear at hyear
  unfold Instant.unixSeconds Date.epochDay Date.daysBeforeMonth
  unfold daySeconds at *
  split <;> dsimp only <;> omega

theorem firstSecond_gt : -10000000000000 < Instant.firstSecond := by decide

theorem lastSecond_lt : Instant.lastSecond < 10000000000000 := by decide

theorem expiryWord_le (n : Int) : expiryWord n ≤ wordLimit := by
  have hlow := Int.emod_nonneg n (b := ((wordLimit + 1 : Nat) : Int)) (by decide)
  have hhigh := Int.emod_lt_of_pos n (b := ((wordLimit + 1 : Nat) : Int)) (by decide)
  unfold expiryWord
  omega

/-- A time before 1970 wraps around. -/
theorem expiryWord_of_neg {n : Int} (h : n < 0) (hn : -10000000000000 < n) :
    (expiryWord n : Int) = n + (wordLimit + 1 : Nat) := by
  have hmod : n % ((wordLimit + 1 : Nat) : Int) = n + (wordLimit + 1 : Nat) := by
    rw [← Int.add_emod_right, Int.emod_eq_of_lt]
    · unfold wordLimit
      omega
    · omega
  unfold expiryWord
  rw [hmod]
  unfold wordLimit
  omega

/-- The word of an end is behind the clock when the end is, unless the end is
before 1970. -/
theorem expiryWord_lt_iff {n : Int} (hfirst : Instant.firstSecond ≤ n)
    (hlast : n ≤ Instant.lastSecond) (now : Instant) :
    (expiryWord n : Int) < now.unixSeconds - leeway ↔ 0 ≤ n ∧ n + leeway < now.unixSeconds := by
  have hlow := Int.lt_of_lt_of_le firstSecond_gt hfirst
  have hhigh := Int.lt_of_le_of_lt hlast lastSecond_lt
  by_cases h : 0 ≤ n
  · rw [expiryWord_of_nonneg h (by unfold wordLimit; omega)]
    omega
  · have hnow := unixSeconds_lt now
    rw [expiryWord_of_neg (by omega) hlow]
    unfold leeway wordLimit
    omega

end ChatServer.Account.Token

namespace ChatServer.Account

open Store Time Token

/-- What is issued has an end that can be held, and is what the secret signs. -/
theorem issue_eq_ok {secret token : String} {owner : Identity} {ttl : Int} {issued : Instant} :
    Token.issue secret owner ttl issued = .ok token ↔
      (Instant.firstSecond ≤ issued.unixSeconds + ttl ∧
        issued.unixSeconds + ttl ≤ Instant.lastSecond) ∧
        sign secret ⟨owner.userId, owner.email, expiryWord (issued.unixSeconds + ttl)⟩ = token := by
  unfold Token.issue Instant.secondsAfter?
  by_cases hend : Instant.firstSecond ≤ issued.unixSeconds + ttl ∧
    issued.unixSeconds + ttl ≤ Instant.lastSecond
  · simp [hend]
  · simp [hend]

section
variable {user : User} {db : Database} {d : Draw}

/-- A signed token of a user in the store admits that user as long as its word
is not behind the clock. -/
theorem verify_sign (hstored : db.answer (.getUser user.id) d = .ok (some user))
    (secret email : String) {expiry : Nat} (h : expiry ≤ wordLimit) (now : Instant) :
    ((verify secret now (sign secret ⟨user.id, email, expiry⟩)).run d db).1 =
      if (expiry : Int) < now.unixSeconds - leeway then .error (.invalid .expired)
        else .ok user.identity := by
  have hcheck := check_sign secret now (c := ⟨user.id, email, expiry⟩) h
  rw [verify, if_neg (by simpa using sign_ne_empty secret _), hcheck]
  by_cases hlate : (expiry : Int) < now.unixSeconds - leeway
  · rw [if_pos hlate, if_pos hlate]
    rfl
  · rw [if_neg hlate, if_neg hlate]
    rw [Database.answer] at hstored
    dsimp only
    rw [Plan.run, hstored]
    rfl

/-- **A token admits until a minute after its end, and for ever if the end lies
before 1970.** Whom it admits is the user that the store has, with the email
that the store has. -/
theorem admits_until_end (hstored : db.answer (.getUser user.id) d = .ok (some user))
    {secret email token : String} {ttl : Int} {issued : Instant}
    (hissued : Token.issue secret ⟨user.id, email⟩ ttl issued = .ok token) (now : Instant) :
    ((verify secret now token).run d db).1 =
      if 0 ≤ issued.unixSeconds + ttl ∧ issued.unixSeconds + ttl + 60 < now.unixSeconds then
        .error (.invalid .expired)
      else .ok user.identity := by
  obtain ⟨⟨hfirst, hlast⟩, rfl⟩ := issue_eq_ok.1 hissued
  rw [verify_sign hstored secret email (expiryWord_le _) now]
  exact if_congr (expiryWord_lt_iff hfirst hlast now) rfl rfl

end

def sampleUser : User := ⟨sampleId 1, "a@test.com", sampleNoon⟩

/-- A minute after noon, and some seconds. -/
def sampleMinute (past : Fin 59) : Instant :=
  ⟨sampleNoon.date, 43260 + past.val, 0, by unfold daySeconds; omega, sampleNoon.nano_lt,
    by unfold secondNanos; omega⟩

theorem sampleUser_stored : (Database.empty.run sampleSteps).answer (.getUser sampleUser.id)
    (sampleDraw 5) =
    .ok (some sampleUser) := by decide +kernel

/-- A token that ends at noon admits for another minute, and not a second
longer. -/
theorem admits_until_end_sample :
    let token := sign "key" ⟨sampleUser.id, "old@test.com", expiryWord (sampleNoon.unixSeconds + 0)⟩
    let store := Database.empty.run sampleSteps
    ((verify "key" (sampleMinute 0) token).run (sampleDraw 5) store).1 = .ok sampleUser.identity ∧
      ((verify "key" (sampleMinute 1) token).run (sampleDraw 5) store).1 =
        .error (.invalid .expired) := by
  have hissued : Token.issue "key" ⟨sampleUser.id, "old@test.com"⟩ 0 sampleNoon =
      .ok (sign "key" ⟨sampleUser.id, "old@test.com", expiryWord (sampleNoon.unixSeconds + 0)⟩) :=
    issue_eq_ok.2 ⟨by decide, rfl⟩
  have hlast := admits_until_end sampleUser_stored hissued (sampleMinute 0)
  have hlate := admits_until_end sampleUser_stored hissued (sampleMinute 1)
  rw [if_neg (by decide)] at hlast
  rw [if_pos (by decide)] at hlate
  exact ⟨hlast, hlate⟩

/-- Where tokens live for minus 600000 hours, one that is issued at noon has
ended in 1955, and admits at noon. -/
theorem lapsed_token_admits :
    let token := sign "key" ⟨sampleUser.id, sampleUser.email,
      expiryWord (sampleNoon.unixSeconds + -2160000000)⟩
    Token.issue "key" sampleUser.identity (-2160000000) sampleNoon = .ok token ∧
      sampleNoon.unixSeconds + -2160000000 + 60 < sampleNoon.unixSeconds ∧
      ((verify "key" sampleNoon token).run (sampleDraw 5) (Database.empty.run sampleSteps)).1 =
        .ok sampleUser.identity := by
  have hadmits := verify_sign sampleUser_stored "key" sampleUser.email
    (expiryWord_le (sampleNoon.unixSeconds + -2160000000)) sampleNoon
  rw [if_neg (by decide)] at hadmits
  exact ⟨issue_eq_ok.2 ⟨by decide, rfl⟩, by decide, hadmits⟩

end ChatServer.Account
