import ChatServer.Account.PasswordHash

/-!
# Ways to hash passwords

Which method makes the texts that the store holds is for the deployment to
choose: a `Hasher` is any pair of functions in which exactly the password that
was hashed checks.

* `Hasher.check_hash`: the hash of a password accepts that password alone.
-/
namespace ChatServer.Account

/-- A way to hash passwords. A salt makes equal passwords differ in the
store. -/
structure Hasher where
  hash : (salt password : String) → String
  /-- Does the password fit the text? No answer for a text that is no hashed
  password. -/
  check : (text password : String) → Option Bool
  /-- A hashed password is fitted by that password and no other. -/
  check_hash : ∀ salt password other, check (hash salt password) other = some (password == other)

namespace Hasher

/-- The method that leaves passwords as they are behind a mark, for servers that
keep no secrets. Texts without the mark are read as hashed passwords. -/
def plain (mark : List Char) : Hasher where
  hash _ password := String.ofList (mark ++ password.toList)
  check text password :=
    if mark.isPrefixOf text.toList then some (text.toList.drop mark.length == password.toList)
    else (PasswordHash.read? text).map (·.fits password)
  check_hash salt password other := by
    have h : mark.isPrefixOf (mark ++ password.toList) = true :=
      List.isPrefixOf_iff_prefix.2 (List.prefix_append _ _)
    have hd : (mark ++ password.toList).drop mark.length = password.toList := by simp
    simp only [String.toList_ofList, h, if_true, hd, Option.some.injEq]
    rw [Bool.eq_iff_iff]
    simp only [beq_iff_eq, String.toList_inj]

end Hasher
end ChatServer.Account

