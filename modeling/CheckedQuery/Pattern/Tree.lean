import CheckedQuery.Unicode.CharSet

/-!
# Trees of patterns

What a pattern is put together from.  Whether a text has a match does not depend
on what a group captures or on how greedy a repetition is; the size of the pattern
depends on both.
-/

namespace CheckedQuery.Pattern

/-- A condition on a position, on the characters before and after it.  The
conditions on words take them from ASCII or from all of Unicode. -/
inductive Anchor where
  | textStart
  | textEnd
  | lineStart
  | lineEnd
  /-- Lines that end in a carriage return, a line feed or both. -/
  | mixedLineStart
  | mixedLineEnd
  | wordBoundary (ascii : Bool)
  | noWordBoundary (ascii : Bool)
  | wordStart (ascii : Bool)
  | wordEnd (ascii : Bool)
  | wordStartHalf (ascii : Bool)
  | wordEndHalf (ascii : Bool)
  deriving DecidableEq

/-- A leaf of a pattern: one character of a set, written with so many brackets
inside each other, or a condition on a position. -/
inductive Atom where
  | char (set : Unicode.CharSet) (nesting : Nat)
  | anchor (anchor : Anchor)

inductive Tree (α : Type) where
  | empty
  | leaf (atom : α)
  | group (inner : Tree α) (captures : Bool)
  | repetition (inner : Tree α) (least : Nat) (most : Option Nat) (greedy : Bool)
  | concat (parts : List (Tree α))
  | alternation (branches : List (Tree α))

namespace Tree

variable {α β : Type}

/-- A sequence of parts. -/
def ofParts : List (Tree α) → Tree α
  | [] => .empty
  | [only] => only
  | parts => .concat parts

/-- A choice among branches. -/
def ofBranches : List (Tree α) → Tree α
  | [only] => only
  | branches => .alternation branches

mutual

/-- Change every leaf. -/
def map (change : α → β) : Tree α → Tree β
  | .empty => .empty
  | .leaf atom => .leaf (change atom)
  | .group inner captures => .group (inner.map change) captures
  | .repetition inner least most greedy =>
      .repetition (inner.map change) least most greedy
  | .concat parts => .concat (mapEach change parts)
  | .alternation branches => .alternation (mapEach change branches)

/-- List counterpart of `map`. -/
def mapEach (change : α → β) : List (Tree α) → List (Tree β)
  | [] => []
  | tree :: trees => tree.map change :: mapEach change trees

end

mutual

/-- How deep a tree is, where a leaf has a depth of its own. -/
def depth (leafDepth : α → Nat) : Tree α → Nat
  | .empty => 0
  | .leaf atom => leafDepth atom
  | .group inner _ => inner.depth leafDepth + 1
  | .repetition inner _ _ _ => inner.depth leafDepth + 1
  | .concat parts => maxDepth leafDepth parts + 1
  | .alternation branches => maxDepth leafDepth branches + 1

/-- The depth of the deepest tree. -/
def maxDepth (leafDepth : α → Nat) : List (Tree α) → Nat
  | [] => 0
  | tree :: trees => max (tree.depth leafDepth) (maxDepth leafDepth trees)

end

end Tree

namespace Atom

def nesting : Atom → Nat
  | .char _ nesting => nesting
  | .anchor _ => 0

end Atom

end CheckedQuery.Pattern
