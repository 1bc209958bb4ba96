/-
The time of the network, from what a few nodes say.

A node that is asked for the time answers with the time at which it answered, which lies somewhere
between the question and the arrival of the answer; half of that round trip is taken off, so that
the answer stands for the time of the question.  To that is added how long ago the question was
asked.  Of the candidates the middle one counts, so that a minority of wrong answers cannot move the
result beyond the answers of the others.

Times are in milliseconds and are kept in 64 bits.  A sum that does not fit loses its upper part;
where overflow is checked, it breaks the work off instead.
-/
import OnionSwarm.Clock.Reading

namespace OnionSwarm.Clock

/-- How many nodes are asked. -/
def sampleSize : Nat := 3

/-- How long all answers together may take, in milliseconds. -/
def patience : Nat := 8000

/-- What a node answered. -/
structure Answer where
  /-- The time that the node gave. -/
  reported : Nat
  /-- From the question to the arrival of the answer. -/
  roundTrip : Nat
  /-- From the question until all answers were in. -/
  age : Nat
  deriving DecidableEq, Repr

namespace Answer

/-- The time now by this answer, as a sum of any size. -/
def sum (a : Answer) : Nat := a.reported - a.roundTrip / 2 + a.age

/-- The time now by this answer.  It starts over where the sum does not fit; where overflow is
checked, there is no time then, and the sampling is broken off. -/
def candidate (a : Answer) : Nat := a.sum % wordEnd

end Answer

/-- The middle one of some times, the later one if there are two. -/
def middle? (times : List Nat) : Option Nat := (times.mergeSort (· ≤ ·))[times.length / 2]?

/-- The time now by all answers; nothing if there are none. -/
def estimate? (answers : List Answer) : Option Nat := middle? (answers.map Answer.candidate)

end OnionSwarm.Clock
