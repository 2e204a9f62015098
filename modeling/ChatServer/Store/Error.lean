import ChatServer.Time.Reading
import ChatServer.Text.Digits

/-!
# Why the store fails

The causes of a failed store operation and their wording. `message` is the
outermost wording, `chain` adds what lies under it.

* `bind_eq_ok`, `map_eq_ok`: a course of steps succeeds when each of them does.
-/
namespace ChatServer.Store

open Time

inductive Error
  /-- A column that should hold an identifier does not. -/
  | corruptId (text : String)
  /-- A column that should hold a time does not. -/
  | corruptTime (text : String) (fault : Fault)
  /-- A channel of a kind that is not known. -/
  | unknownKind (kind channel : String)
  /-- A row refers to a row that is not there. -/
  | foreignKey
  /-- A row repeats columns that no two rows may share. -/
  | unique (columns : List String)
  /-- A row lacks a column that every row has. -/
  | required (column : String)
  /-- A row that is read has no identifier. -/
  | unnamed
  /-- A message's time is outside the years that can be ordered. -/
  | unstorable (text : String)
  /-- A failure inside an earlier operation has left the lock unusable. -/
  | poisoned
  /-- None of the identifiers at hand is free. -/
  | noFreshId
deriving DecidableEq

/-- The outermost wording of a failure. -/
def Error.message : Error → String
  | corruptId text => "corrupt id '" ++ text ++ "'"
  | corruptTime text _ => "corrupt timestamp '" ++ text ++ "'"
  | unknownKind kind channel =>
    "unknown channel kind '" ++ kind ++ "' on channel '" ++ channel ++ "'"
  | foreignKey => "FOREIGN KEY constraint failed"
  | unique columns => "UNIQUE constraint failed: " ++ String.intercalate ", " columns
  | required column => "NOT NULL constraint failed: " ++ column
  | unnamed => "Invalid column type Null at index: 0, name: id"
  | unstorable text => "created_at '" ++ text ++ "' is outside years 0000..=9999"
  | poisoned => "DB lock poisoned: poisoned lock: another task failed inside"
  | noFreshId => "no fresh id"

/-- The wording of a failure with its cause. -/
def Error.chain (e : Error) : String :=
  match e with
  | corruptTime _ fault => e.message ++ ": " ++ fault.message
  | _ => e.message

/-! ## Steps that may fail -/

variable {ε α β γ : Type}

theorem bind_eq_ok {x : Except ε α} {f : α → Except ε β} {b : β} :
    x >>= f = .ok b ↔ ∃ a, x = .ok a ∧ f a = .ok b := by
  cases x <;> simp [bind, Except.bind]

theorem map_eq_ok {x : Except ε α} {f : α → β} {b : β} :
    x.map f = .ok b ↔ ∃ a, x = .ok a ∧ f a = b := by
  cases x <;> simp [Except.map]

/-- A step that succeeds on each element of a list succeeds on the list. -/
theorem mapM_map_ok {f : β → Except ε γ} {g : α → β} {result : α → γ} {xs : List α}
    (h : ∀ x ∈ xs, f (g x) = .ok (result x)) : (xs.map g).mapM f = .ok (xs.map result) := by
  induction xs with
  | nil => rfl
  | cons x xs ih =>
    rw [List.map_cons, List.mapM_cons, h x List.mem_cons_self,
      ih fun y hy => h y (List.mem_cons_of_mem x hy)]
    rfl

end ChatServer.Store

