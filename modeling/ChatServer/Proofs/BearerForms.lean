import ChatServer.Proofs.TokenForm
import ChatServer.Web.Service

/-!
# The two readings of a bearer header

Requests for data and requests for a socket read the authorization header in two
ways before they look at the token in the same way. No token that holds begins
or ends with a blank, so the strict reading admits through plain headers alone:
the word as it is written, one space and the token. There the two readings
agree. Through any other header the strict reading admits nobody, whatever the
lenient one does: it refuses the word in another case and a second space before
the token.

* `lenient?_of_isPlain`: plain headers read leniently.
* `lenient?_word`: the word in any case.
* `authenticate_eq`: the requests for data that are let through, in terms of
  those for a socket.
* `word_in_lower_case`: a header that lets a socket through and no request for
  data.
-/
namespace ChatServer.Account.Bearer

/-- A header that both readings take alike: the word, one space, and a token
without a blank at its ends. -/
def isPlain (header : String) : Bool :=
  header.toList.take 7 == scheme ++ [' '] && !(header.toList.drop 7).head?.any isPad &&
    !(header.toList.drop 7).getLast?.any isPad

theorem dropWhile_isPad {cs : List Char} (h : cs.head?.any isPad = false) :
    cs.dropWhile isPad = cs := by
  cases cs with
  | nil => rfl
  | cons c rest => exact List.dropWhile_cons_of_neg (by simpa using h)

/-- A word of six letters in any case, one space and a token are read leniently
as that token. -/
theorem lenient?_word {word token : List Char}
    (hword : word.map Char.toLower = scheme.map Char.toLower)
    (hletters : word.all isHeaderChar = true) (hhead : token.head?.any isPad = false) :
    lenient? (String.ofList (word ++ ' ' :: token)) =
      if token.all isHeaderChar then some (String.ofList token) else none := by
  have hlength : word.length = 6 := by simpa [scheme] using congrArg List.length hword
  have hall : (word ++ ' ' :: token).all isHeaderChar = token.all isHeaderChar := by
    rw [List.all_append, List.all_cons, hletters, Bool.true_and, show isHeaderChar ' ' =
      true by decide,
      Bool.true_and]
  have htake : (word ++ ' ' :: token).take 6 = word := by rw [← hlength, List.take_left]
  have hspace : (word ++ ' ' :: token)[6]? = some ' ' := by
    rw [List.getElem?_append_right (by omega), hlength]
    rfl
  have hdrop : (word ++ ' ' :: token).drop 7 = token := by
    rw [show word ++ ' ' :: token = (word ++ [' ']) ++ token by simp]
    exact List.drop_left' (by simp [hlength])
  simp only [lenient?, String.toList_ofList, hall, htake, hword, hspace, hdrop,
    dropWhile_isPad hhead, and_true]

theorem strict?_word (token : List Char) :
    strict? (String.ofList (scheme ++ ' ' :: token)) =
      if token.all isHeaderChar then some (String.ofList token) else none := by
  have hall : (scheme ++ ' ' :: token).all isHeaderChar = token.all isHeaderChar := by
    rw [List.all_append, List.all_cons, show scheme.all isHeaderChar = true by decide,
      Bool.true_and,
      show isHeaderChar ' ' = true by decide, Bool.true_and]
  simp only [strict?, String.toList_ofList, hall]
  rw [show (scheme ++ ' ' :: token).take 7 = scheme ++ [' '] from rfl,
    show (scheme ++ ' ' :: token).drop 7 = token from rfl]
  simp only [and_true]

/-- What a plain header is made of. -/
theorem isPlain_iff {header : String} : isPlain header = true ↔ ∃ token : List Char,
    header = String.ofList (scheme ++ ' ' :: token) ∧ token.head?.any isPad = false ∧
      token.getLast?.any isPad = false := by
  constructor
  · intro h
    simp only [isPlain, Bool.and_eq_true, beq_iff_eq, Bool.not_eq_true'] at h
    obtain ⟨⟨htake, hhead⟩, hlast⟩ := h
    refine ⟨header.toList.drop 7, ?_, hhead, hlast⟩
    rw [← String.toList_inj, String.toList_ofList]
    conv_lhs => rw [← List.take_append_drop 7 header.toList, htake]
    simp
  · rintro ⟨token, rfl, hhead, hlast⟩
    simp [isPlain, scheme, hhead, hlast]

/-- Plain headers are read leniently as they are read strictly. -/
theorem lenient?_of_isPlain {header : String} (h : isPlain header = true) :
    lenient? header = strict? header := by
  obtain ⟨token, rfl, hhead, -⟩ := isPlain_iff.1 h
  rw [strict?_word, lenient?_word rfl (by decide) hhead]

end ChatServer.Account.Bearer

namespace ChatServer.Account

open Bearer Token Store Time

/-- The letters of tokens may stand in headers, and are no blanks. -/
theorem Token.plain_of_isTokenChar {c : Char} (h : isTokenChar c = true) :
    isHeaderChar c = true ∧ isPad c = false := by
  have hvisible : c.toNat = '.'.toNat ∨ (0x30 ≤ c.toNat ∧ c.toNat ≤ 0x7A) ∨
      c.toNat = '-'.toNat := by
    rw [isTokenChar, Bool.or_eq_true, beq_iff_eq] at h
    rcases h with rfl | h
    · exact .inl rfl
    · simp only [Text.Base64.Alphabet.value?] at h
      repeat' split at h
      · omega
      · omega
      · omega
      · next hc => exact .inr (.inr (congrArg Char.toNat hc))
      · next hc => exact .inr (.inl (by rw [hc]; decide))
      · cases h
  have hdot : '.'.toNat = 0x2E := rfl
  have hminus : '-'.toNat = 0x2D := rfl
  constructor
  · rw [isHeaderChar, Bool.or_eq_true, Bool.and_eq_true, decide_eq_true_eq, decide_eq_true_eq]
    omega
  · rw [isPad, Bool.or_eq_false_iff, beq_eq_false_iff_ne, beq_eq_false_iff_ne]
    constructor <;> rintro rfl <;> exact absurd hvisible (by decide)

/-- A token that holds may stand in headers, and has no blanks. -/
theorem Token.plain_of_check {secret token : String} {now : Instant} {held : Claims}
    (h : check secret now token = .ok held) : ∀ c ∈ token.toList, isHeaderChar c = true ∧
      isPad c = false :=
  fun c hc => plain_of_isTokenChar ((check_eq_ok_iff.1 h).letters c hc)

/-- A token with a blank at one of its ends does not hold. -/
theorem Token.ends_of_check {secret token : String} {now : Instant} {held : Claims}
    (h : check secret now token = .ok held) :
    token.toList.head?.any isPad = false ∧ token.toList.getLast?.any isPad = false := by
  constructor
  · cases hhead : token.toList.head? with
    | none => rfl
    | some c => exact (plain_of_check h c (List.mem_of_mem_head? hhead)).2
  · cases hlast : token.toList.getLast? with
    | none => rfl
    | some c => exact (plain_of_check h c (List.mem_of_mem_getLast? hlast)).2

end ChatServer.Account

namespace ChatServer.Web

open Account Account.Token Store Time

theorem admitted_empty (secret : String) (now : Instant) :
    admitted secret now (some "") = .done (.error 401) := by
  rw [admitted, verify_nil]
  rfl

theorem admitted_unchecked {secret token : String} {now : Instant} {f : TokenFault}
    (h : check secret now token = .error f) :
    admitted secret now (some token) = .done (.error 401) := by
  by_cases hempty : token = ""
  · rw [hempty, admitted_empty]
  · rw [admitted, verify, if_neg (by simpa using hempty), h]
    rfl

/-- **Requests for data are let through as those for a socket are, if their
header is plain, and else not at all.** -/
theorem authenticate_eq (secret : String) (now : Instant) (r : Request) :
    authenticate secret now r =
      if (r.header? "authorization").any Bearer.isPlain then authenticateSocket secret now r
      else .done (.error 401) := by
  unfold authenticate authenticateSocket
  cases r.header? "authorization" with
  | none => rfl
  | some header =>
    simp only [Option.bind_some, Option.any_some]
    split
    · next hplain =>
      rw [Bearer.lenient?_of_isPlain hplain]
    · next hplain =>
      cases hstrict : Bearer.strict? header with
      | none => rfl
      | some token =>
        cases hcheck : check secret now token with
        | error f => exact admitted_unchecked hcheck
        | ok held =>
          obtain ⟨hhead, hlast⟩ := ends_of_check hcheck
          refine absurd (Bearer.isPlain_iff.2 ⟨token.toList, ?_, hhead, hlast⟩) hplain
          rw [← String.toList_inj, String.toList_ofList, Bearer.strict?_eq_some hstrict]

/-- A request whose header has the word in lower case. -/
def lowerCaseRequest (token : String) : Request :=
  ⟨"GET", "/api/channels", [("authorization", "bearer " ++ token)], ""⟩

theorem header?_lowerCaseRequest (token : String) :
    (lowerCaseRequest token).header? "authorization" =
    some (String.ofList (['b', 'e', 'a', 'r', 'e', 'r'] ++ ' ' :: token.toList)) := by
  have hname : Request.sameName "authorization" "authorization" = true := by decide
  have htext : "bearer " ++ token =
      String.ofList (['b', 'e', 'a', 'r', 'e', 'r'] ++ ' ' :: token.toList) := by
    rw [← String.toList_inj, String.toList_append, String.toList_ofList]
    simp only [String.toList_ofList, List.cons_append, List.nil_append]
  simp only [lowerCaseRequest, Request.header?, List.find?_cons, hname, Option.map_some, htext]

/-- With the word in lower case a token that holds lets sockets through, and no
request for data. -/
theorem authenticate_lowerCaseRequest {secret token : String} {now : Instant} {held : Claims}
    (h : check secret now token = .ok held) :
    authenticateSocket secret now (lowerCaseRequest token) = admitted secret now (some token) ∧
      authenticate secret now (lowerCaseRequest token) = .done (.error 401) := by
  have hchars : token.toList.all Bearer.isHeaderChar = true :=
    List.all_eq_true.2 fun c hc => (plain_of_check h c hc).1
  constructor
  · rw [authenticateSocket, header?_lowerCaseRequest, Option.bind_some,
      Bearer.lenient?_word (by decide) (by decide) (ends_of_check h).1, if_pos hchars,
        String.ofList_toList]
  · rw [authenticate, header?_lowerCaseRequest, Option.bind_some, Bearer.strict?, if_neg]
    · rfl
    · rw [String.toList_ofList]
      rintro ⟨-, hword⟩
      have hfirst : some 'b' = some 'B' := congrArg List.head? hword
      exact absurd hfirst (by decide)

/-- The same header lets a socket through, and is refused when it comes with a
request for data. -/
theorem word_in_lower_case :
    let token := sign "key" ⟨sampleUser.id, sampleUser.email,
      expiryWord (sampleNoon.unixSeconds + 0)⟩
    let store := Database.empty.run sampleSteps
    ((authenticateSocket "key" sampleNoon (lowerCaseRequest token)).run (sampleDraw 5) store).1 =
        .ok sampleUser.identity ∧
      ((authenticate "key" sampleNoon (lowerCaseRequest token)).run (sampleDraw 5) store).1 =
        .error 401 := by
  have hword := expiryWord_le (sampleNoon.unixSeconds + 0)
  have hbehind :
      ¬ (expiryWord (sampleNoon.unixSeconds + 0) : Int) < sampleNoon.unixSeconds - leeway := by
    decide
  generalize expiryWord (sampleNoon.unixSeconds + 0) = expiry at hword hbehind
  have hchecked :=
    check_sign "key" sampleNoon (c := ⟨sampleUser.id, sampleUser.email, expiry⟩) hword
  have hverified := verify_sign sampleUser_stored "key" sampleUser.email hword sampleNoon
  rw [if_neg hbehind] at hchecked hverified
  obtain ⟨hsocket, hdata⟩ := authenticate_lowerCaseRequest hchecked
  dsimp only
  rw [hsocket, hdata, admitted, Plan.run_map, hverified]
  exact ⟨rfl, rfl⟩

end ChatServer.Web

