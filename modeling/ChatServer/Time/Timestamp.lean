import ChatServer.Time.RoundTrip

/-!
# Timestamps

A time together with the text it was submitted as. The server shows clients the
text they sent and works with the instant; two timestamps with the same instant
and other texts are different. The text of a timestamp reads as its instant: no
other pair can be made.

* `parse_text`: the text of a timestamp is read as that timestamp.
* `text_of_parse`: a parsed timestamp keeps its text unchanged.
-/
namespace ChatServer.Time

/-- A time and the text that stands for it. -/
structure Timestamp where
  text : String
  instant : Instant
  parsed : Instant.parse text = .ok instant
deriving DecidableEq

namespace Timestamp

def parse (s : String) : Except Fault Timestamp :=
  match h : Instant.parse s with
  | .ok t => .ok ⟨s, t, h⟩
  | .error e => .error e

/-- A time of the server's own, in the short form. -/
def ofInstant (t : Instant) : Timestamp :=
  ⟨t.short, t, by simp [Instant.parse, Instant.short, readSubmitted_shortChars]⟩

/-- The store can order it by its stored form: its UTC year has four digits. -/
def isStorable (t : Timestamp) : Bool := t.instant.hasFourDigitYear

theorem parse_text (t : Timestamp) : parse t.text = .ok t := by
  obtain ⟨text, instant, h⟩ := t
  unfold parse
  split
  · next h' => cases h.symm.trans h'; rfl
  · next h' => cases h.symm.trans h'

theorem text_of_parse {s : String} {t : Timestamp} (h : parse s = .ok t) : t.text = s := by
  unfold parse at h
  split at h
  · cases h; rfl
  · cases h

end Timestamp
end ChatServer.Time

