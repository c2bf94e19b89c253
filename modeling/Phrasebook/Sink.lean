/-!
# Sinks

A sink takes the generated text piece by piece and may refuse a piece, of which it then
stores nothing. What it takes is its *admission rule*: the rule sees how many pieces have
been offered before, how many bytes are stored, and the piece itself, so it can follow any
pattern of acceptance and refusal. A refusal is not final, and a later piece may be taken.
An empty piece is not offered at all.
-/

namespace Phrasebook

/-- Decides whether a piece is taken, given how many have been offered before and how many
bytes are stored. -/
abbrev Admission := (offered stored : Nat) → (text : String) → Bool

namespace Admission

/-- Everything is taken. -/
def unlimited : Admission :=
  fun _ _ _ => true

/-- A piece is taken if all that is stored then fits into this many bytes. -/
def upTo (limit : Nat) : Admission :=
  fun _ stored text => decide (stored + text.utf8ByteSize ≤ limit)

end Admission

/-- A sink, with the numbers that its rule depends on. -/
structure Sink where
  admission : Admission
  offered : Nat := 0
  stored : Nat := 0

namespace Sink

/-- Whether a sink takes a text. -/
def takes (sink : Sink) (text : String) : Bool :=
  text.isEmpty || sink.admission sink.offered sink.stored text

/-- The sink after a text has been offered to it. -/
def offer (sink : Sink) (text : String) : Sink :=
  if text.isEmpty then sink
  else if sink.takes text then
    { sink with offered := sink.offered + 1, stored := sink.stored + text.utf8ByteSize }
  else { sink with offered := sink.offered + 1 }

end Sink

end Phrasebook
