/-!
# Counting states

What has been added to a program: states, and the lists that some of them have.
The states themselves are not needed.
-/

namespace CheckedQuery.Pattern

/-- The number of states, which is also the number of the next one, and the bytes
of their lists. -/
structure Meter where
  states : Nat
  listBytes : Nat

namespace Meter

def empty : Meter :=
  { states := 0
    listBytes := 0 }

/-- The bytes of a state without its lists. -/
def stateBytes : Nat :=
  32

/-- The bytes of an entry in the list of a choice. -/
def choiceBytes : Nat :=
  4

/-- The bytes of an entry in a list of byte spans. -/
def spanBytes : Nat :=
  8

/-- The most bytes that a program may take. -/
def limit : Nat :=
  10485760

def total (meter : Meter) : Nat :=
  meter.states * stateBytes + meter.listBytes

def isExceeded (meter : Meter) : Bool :=
  limit < meter.total

def addStates (meter : Meter) (count : Nat) : Meter :=
  { meter with states := meter.states + count }

/-- A state with a list of byte spans. -/
def addSpans (meter : Meter) (count : Nat) : Meter :=
  { states := meter.states + 1
    listBytes := meter.listBytes + count * spanBytes }

/-- Entries in the lists of choices. -/
def addEntries (meter : Meter) (count : Nat) : Meter :=
  { meter with listBytes := meter.listBytes + count * choiceBytes }

end Meter

/-- A stretch of a program up to its last state.  To go on from that state adds an
entry if it is a choice. -/
structure Stretch where
  meter : Meter
  endsInChoice : Bool

namespace Stretch

/-- A stretch that ends in a state with one successor. -/
def plain (meter : Meter) : Stretch :=
  { meter := meter
    endsInChoice := false }

/-- A stretch that ends in a choice. -/
def choice (meter : Meter) : Stretch :=
  { meter := meter
    endsInChoice := true }

/-- Go on from the last state of a stretch. -/
def link (stretch : Stretch) (meter : Meter) : Meter :=
  if stretch.endsInChoice then meter.addEntries 1 else meter

/-- Add another stretch and go on to it. -/
def andThen (stretch : Stretch) (add : Meter → Stretch) : Stretch :=
  let next := add stretch.meter
  { next with meter := stretch.link next.meter }

end Stretch

end CheckedQuery.Pattern
