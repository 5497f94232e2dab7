import CheckedQuery.Pattern.Matching
import CheckedQuery.Pattern.Parser

/-!
# Patterns

A pattern describes a set of texts in the usual notation of regular expressions.
A text matches if any part of it does.
-/

namespace CheckedQuery

structure Pattern where
  source : String
  tree : Pattern.Tree Pattern.Atom

namespace Pattern

/-- The pattern that a text writes. -/
def ofText (source : String) : Except Fault Pattern :=
  (Tree.ofText source.toList).map fun tree =>
    { source := source
      tree := tree }

def isMatch (pattern : Pattern) (text : String) : Bool :=
  pattern.tree.hasMatch text.toList

end Pattern

end CheckedQuery
