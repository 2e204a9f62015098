/-!
# Requests and answers

What a client asks over HTTP and what it is answered.
-/
namespace ChatServer.Web

structure Request where
  method : String
  /-- Path and query. -/
  target : String
  headers : List (String × String)
  body : String

structure Answer where
  status : Nat
  /-- The sites that may read the answer in a browser. -/
  allowOrigin : String
  contentType : Option String
  /-- A token for the client. -/
  authorization : Option String
  body : String
deriving DecidableEq

namespace Request

/-- Names of headers are compared without regard to case. -/
def sameName (a b : String) : Bool :=
  a.toList.map Char.toLower == b.toList.map Char.toLower

/-- The first header of a name. -/
def header? (r : Request) (name : String) : Option String :=
  (r.headers.find? fun h => sameName h.1 name).map Prod.snd

end Request

namespace Answer

/-- Every site may read the answers. -/
def anyOrigin : String := "*"

/-- An answer that is only a status. -/
def ofStatus (status : Nat) : Answer := ⟨status, anyOrigin, none, none, ""⟩

def json (text : String) : Answer := ⟨200, anyOrigin, some "application/json", none, text⟩

def plainText (text : String) : Answer :=
    ⟨200, anyOrigin, some "text/plain; charset=utf-8", none, text⟩

def bodiless (a : Answer) : Answer := { a with body := "" }

end Answer
end ChatServer.Web

