/-!
# Bearer headers

How the token is taken out of an authorization header. Requests for data take it
literally: the word `Bearer`, one space, and the rest is the token. Requests for
a socket are more lenient: the word may be in any case, and blanks in front of
the token are dropped. Neither admits a header with anything but visible ASCII,
spaces and tabs.

* `strict?_eq_some`: what the strict reading finds stands in the header
  literally.
-/
namespace ChatServer.Account.Bearer

/-- The characters that a header may be made of. -/
def isHeaderChar (c : Char) : Bool := (0x20 ≤ c.toNat && c.toNat < 0x7F) || c == '\t'

def scheme : List Char := ['B', 'e', 'a', 'r', 'e', 'r']

/-- The token of a header, read strictly: what stands behind the word and one
space, further blanks included. -/
def strict? (header : String) : Option String :=
  let cs := header.toList
  if cs.all isHeaderChar ∧ cs.take 7 = scheme ++ [' '] then some (String.ofList (cs.drop 7))
    else none

def isPad (c : Char) : Bool := c == ' ' || c == '\t'

/-- The token of a header, read leniently. Blanks behind the token stay, and
spoil it. -/
def lenient? (header : String) : Option String :=
  let cs := header.toList
  if cs.all isHeaderChar ∧ (cs.take 6).map Char.toLower = scheme.map Char.toLower ∧
      cs[6]? = some ' ' then
    some (String.ofList ((cs.drop 7).dropWhile isPad))
  else none

theorem strict?_eq_some {header token : String} (h : strict? header = some token) :
    header.toList = scheme ++ ' ' :: token.toList := by
  simp only [strict?] at h
  split at h
  · rename_i hc
    cases h
    have := (List.take_append_drop 7 header.toList).symm
    rw [hc.2] at this
    simpa using this
  · cases h

end ChatServer.Account.Bearer

