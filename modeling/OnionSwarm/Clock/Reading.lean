/-
The network time that was found, and what the client takes the time to be from then on.

The client remembers at which instant of its own clock it found the time, and adds what has passed
since.  All times are kept in 64 bits.  What does not fit loses its upper part; where overflow is
checked, it breaks the work off instead.
-/

namespace OnionSwarm

/-- The network time at an instant of the client's own clock. -/
structure Reading where
  /-- The instant, in nanoseconds. -/
  instant : Nat
  /-- The network time then, in milliseconds. -/
  time : Nat
  deriving DecidableEq, Repr

namespace Clock

/-- Nanoseconds in a millisecond. -/
def tick : Nat := 1000000

/-- The first number that 64 bits do not hold. -/
def wordEnd : Nat := 0x10000000000000000

/-- A whole number as 64 bits with a sign hold it. -/
def signed (i : Int) : Int := (i + wordEnd / 2) % wordEnd - wordEnd / 2

end Clock

namespace Reading

/-- The network time at an instant, as a sum of any size. -/
def sum (r : Reading) (now : Nat) : Nat := r.time + (now - r.instant) / Clock.tick

/-- The network time at an instant.  It starts over where the sum does not fit; where overflow is
checked, there is no time then, and who asks for it is broken off. -/
def timeAt (r : Reading) (now : Nat) : Nat := r.sum now % Clock.wordEnd

/-- How far the network time is ahead of the system's time.  Both are first taken as numbers with a
sign, which never fails.  Their difference starts over where it does not fit; where overflow is
checked, there is none then, and who asks for it is broken off. -/
def offset (r : Reading) (now system : Nat) : Int :=
  Clock.signed (Clock.signed (r.timeAt now) - Clock.signed system)

end Reading
end OnionSwarm
