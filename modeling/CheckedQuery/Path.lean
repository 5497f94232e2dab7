import CheckedQuery.Text.Identifier
import CheckedQuery.Text.Quoted

/-!
# Paths

Where a document is inside another one: the keys and indexes from the root down.
A path is put together from its leaf, every layer putting its own segment in
front.
-/

namespace CheckedQuery

inductive Segment where
  | field (name : String)
  | index (position : Nat)
  deriving DecidableEq

/-- A name that is no identifier is quoted in brackets. -/
def Segment.text : Segment → List Char
  | .field name =>
      if Text.isIdentifier name.toList then '.' :: name.toList
      else '[' :: (Text.quoted name.toList ++ [']'])
  | .index position => '[' :: (Nat.toDigits 10 position ++ [']'])

/-- The steps from the root of a document to a place in it. -/
structure Path where
  segments : List Segment
  deriving DecidableEq

namespace Path

def root : Path :=
  { segments := [] }

def push (path : Path) (segment : Segment) : Path :=
  { segments := path.segments ++ [segment] }

def prepend (segment : Segment) (path : Path) : Path :=
  { segments := segment :: path.segments }

def isRoot (path : Path) : Bool :=
  path.segments.isEmpty

def length (path : Path) : Nat :=
  path.segments.length

def last? (path : Path) : Option Segment :=
  path.segments.getLast?

def text (path : Path) : List Char :=
  path.segments.flatMap Segment.text

end Path

end CheckedQuery
