import ChatServer.Proofs.TokenLife

/-!
# What a token that holds looks like

Checking a token takes it apart from its end: the signature, the claims and the
header. What passes is put together again here, so that other modules need not
follow the checks: a token holds exactly when it is a header, claims and their
signature under the secret with points between them, its claims are for nobody
in particular, and they ended no more than a minute ago.

* `splitLast?_eq_some`: where a text is split.
* `check_eq_ok_iff`: the tokens that hold.
* `Valid.letters`: they are made of the letters of Base64 and of points.
-/
namespace ChatServer.Text.Base64

/-- Bytes come from letters alone. -/
theorem isSome_value?_of_decode? {a : Alphabet} {cs : List Char} {bytes : List UInt8}
    (h : decode? a cs = some bytes) : ∀ c ∈ cs, (a.value? c).isSome = true := by
  have letter {c : Char} {n : Nat} (hc : a.value? c = some n) : (a.value? c).isSome = true := by
    rw [hc, Option.isSome_some]
  fun_induction decode? a cs generalizing bytes with
  | case1 => simp
  | case2 => cases h
  | case3 c d =>
    simp only [Option.bind_eq_bind, Option.bind_eq_some_iff] at h
    obtain ⟨p, hp, q, hq, -⟩ := h
    simp [letter hp, letter hq]
  | case4 c d e =>
    simp only [Option.bind_eq_bind, Option.bind_eq_some_iff] at h
    obtain ⟨p, hp, q, hq, r, hr, -⟩ := h
    simp [letter hp, letter hq, letter hr]
  | case5 c d e f rest ih =>
    simp only [Option.bind_eq_bind, Option.bind_eq_some_iff] at h
    obtain ⟨p, hp, q, hq, r, hr, s, hs, more, hmore, -⟩ := h
    simp only [List.mem_cons, forall_eq_or_imp]
    exact ⟨letter hp, letter hq, letter hr, letter hs, ih hmore⟩

end ChatServer.Text.Base64

namespace ChatServer.Account.Token

open Json Store Text Time

/-- A text that is split has a point where it is, and none behind it. -/
theorem splitLast?_eq_some {cs a b : List Char} (h : splitLast? cs = some (a, b)) :
    cs = a ++ '.' :: b := by
  simp only [splitLast?] at h
  generalize htail : cs.reverse.takeWhile (fun c => decide (c ≠ '.')) = tail at h
  have hsplit : tail ++ cs.reverse.dropWhile (fun c => decide (c ≠ '.')) = cs.reverse :=
    htail ▸ List.takeWhile_append_dropWhile
  have hpoint := List.head?_dropWhile_not (fun c => decide (c ≠ '.')) cs.reverse
  split at h
  · cases h
  · next hlength =>
    cases hrest : cs.reverse.dropWhile (fun c => decide (c ≠ '.')) with
    | nil =>
      rw [hrest, List.append_nil] at hsplit
      exact absurd (by rw [hsplit, List.length_reverse]) hlength
    | cons point before =>
      rw [hrest] at hsplit hpoint
      obtain rfl : point = '.' := by simpa using hpoint
      have hcs : cs = before.reverse ++ '.' :: tail.reverse := by
        rw [← List.reverse_reverse cs, ← hsplit]
        simp
      obtain ⟨rfl, rfl⟩ := Prod.mk.inj (Option.some.inj h)
      have hbefore : cs.take (cs.length - tail.length - 1) = before.reverse := by
        have hcount : cs.length - tail.length - 1 = before.reverse.length := by
          rw [hcs]
          simp
          omega
        rw [hcount, hcs, List.take_left]
      rw [hbefore]
      exact hcs

/-- The characters of a token that holds at a moment, and what it states. -/
inductive Valid (secret : String) (now : Instant) (held : Claims) : List Char → Prop
  | intro {head payload : List Char} {header text : String} (hhead : partText head = .ok header)
    (method : algorithm header = .ok "HS256") (hpayload : partText payload = .ok text)
    (hheld : claims text = .ok (held, false)) (unexpired : now.unixSeconds - leeway ≤ held.expiry) :
    Valid secret now held
      ((head ++ '.' :: payload) ++ '.' :: signature secret (head ++ '.' :: payload))

/-- The letters of tokens. -/
def isTokenChar (c : Char) : Bool := c == '.' || (Base64.Alphabet.url.value? c).isSome

theorem letters_of_partText {part : List Char} {text : String} (h : partText part = .ok text) :
    ∀ c ∈ part, (Base64.Alphabet.url.value? c).isSome = true := by
  unfold partText at h
  cases hbytes : Base64.decode? .url part with
  | none => rw [hbytes] at h; cases h
  | some bytes => exact Base64.isSome_value?_of_decode? hbytes

theorem letters_signature (secret : String) (text : List Char) :
    ∀ c ∈ signature secret text, (Base64.Alphabet.url.value? c).isSome = true :=
  Base64.isSome_value?_of_decode? (Base64.decode?_encode .url _)

theorem ne_point_of_letter {c : Char} (h : (Base64.Alphabet.url.value? c).isSome = true) :
    c ≠ '.' := by
  rintro rfl
  exact absurd h (by decide)

theorem checkClaims_eq_ok {now : Instant} {payload : List Char} {held : Claims} :
    checkClaims now payload = .ok held ↔ ∃ text, partText payload = .ok text ∧
      claims text = .ok (held, false) ∧
      now.unixSeconds - leeway ≤ held.expiry := by
  unfold checkClaims
  rw [bind_eq_ok]
  refine exists_congr fun text => and_congr_right fun _ => ?_
  rw [bind_eq_ok]
  constructor
  · rintro ⟨⟨c, hasAudience⟩, hclaims, hrest⟩
    dsimp only at hrest
    split at hrest
    · cases hrest
    · next hlate =>
      split at hrest
      · cases hrest
      · next haudience =>
        cases hrest
        obtain rfl : hasAudience = false := by simpa using haudience
        exact ⟨hclaims, by omega⟩
  · rintro ⟨hclaims, hlate⟩
    refine ⟨_, hclaims, ?_⟩
    dsimp only
    rw [if_neg (by omega), if_neg (by decide)]

/-- **The tokens that hold** are those of this form. -/
theorem check_eq_ok_iff {secret token : String} {now : Instant} {held : Claims} :
    check secret now token = .ok held ↔ Valid secret now held token.toList := by
  constructor
  · intro h
    unfold check at h
    cases houter : splitLast? token.toList with
    | none => rw [houter] at h; cases h
    | some p =>
      obtain ⟨signed, mark⟩ := p
      rw [houter] at h
      dsimp only at h
      cases hinner : splitLast? signed with
      | none => rw [hinner] at h; cases h
      | some p =>
        obtain ⟨head, payload⟩ := p
        rw [hinner] at h
        obtain ⟨header, hheader, hafter⟩ := bind_eq_ok.1 h
        obtain ⟨name, hname, hrest⟩ := bind_eq_ok.1 hafter
        split at hrest
        · cases hrest
        · next hmethod =>
          split at hrest
          · cases hrest
          · next hmark =>
            obtain rfl : name = "HS256" := by simpa using hmethod
            obtain rfl : mark = signature secret signed := by simpa using hmark
            obtain ⟨text, hpayload, hheld, hunexpired⟩ := checkClaims_eq_ok.1 hrest
            obtain rfl := splitLast?_eq_some hinner
            rw [splitLast?_eq_some houter]
            exact .intro hheader hname hpayload hheld hunexpired
  · intro h
    generalize hcs : token.toList = cs at h
    cases h with
    | intro hhead hmethod hpayload hheld hunexpired =>
      unfold check
      rw [hcs, splitLast?_point fun c hc => ne_point_of_letter (letters_signature secret _ c hc)]
      dsimp only
      rw [splitLast?_point fun c hc => ne_point_of_letter (letters_of_partText hpayload c hc)]
      refine bind_eq_ok.2 ⟨_, hhead, bind_eq_ok.2 ⟨_, hmethod, ?_⟩⟩
      rw [if_neg (by simp), if_neg (by simp)]
      exact checkClaims_eq_ok.2 ⟨_, hpayload, hheld, hunexpired⟩

/-- A token that holds is made of letters and points. -/
theorem Valid.letters {secret : String} {now : Instant} {held : Claims} {cs : List Char}
    (h : Valid secret now held cs) : ∀ c ∈ cs, isTokenChar c = true := by
  obtain ⟨hhead, -, hpayload, -, -⟩ := h
  have hletter {c : Char} (hc : (Base64.Alphabet.url.value? c).isSome = true) :
      isTokenChar c = true := by
    rw [isTokenChar, hc, Bool.or_true]
  have hpoint : isTokenChar '.' = true := by decide
  simp only [List.mem_append, List.mem_cons]
  rintro c ((hc | rfl | hc) | rfl | hc)
  · exact hletter (letters_of_partText hhead c hc)
  · exact hpoint
  · exact hletter (letters_of_partText hpayload c hc)
  · exact hpoint
  · exact hletter (letters_signature _ _ c hc)

end ChatServer.Account.Token

