import CheckedQuery.Pattern.Tree
import CheckedQuery.Unicode.Utf8

/-!
# Normal forms of patterns

A pattern in the form in which it is turned into a program.  Characters next to
each other are one literal, a choice among characters is one set, what branches
have in common at the start comes before the choice, and what cannot take up any
character is repeated at most once.
-/

namespace CheckedQuery.Pattern

inductive Normal where
  | empty
  | literal (text : List Char)
  /-- A set with the byte sequences of its characters. -/
  | set (chars : Unicode.CharSet) (sequences : List (List Unicode.ByteSpan))
  | anchor (condition : Anchor)
  | repetition (inner : Normal) (least : Nat) (most : Option Nat) (greedy : Bool)
  | capture (inner : Normal)
  | concat (parts : List Normal)
  | alternation (branches : List Normal)

namespace Normal

/-! ## Lengths of matches -/

def literalLength (text : List Char) : Nat :=
  text.foldl (fun total c => total + Unicode.encodedLength c.toNat) 0

/-- The lesser of two lengths, if both are known. -/
def lesser? (left right : Option Nat) : Option Nat :=
  match left, right with
  | some left, some right => some (min left right)
  | _, _ => none

/-- The greater of two lengths, if both are known. -/
def greater? (left right : Option Nat) : Option Nat :=
  match left, right with
  | some left, some right => some (max left right)
  | _, _ => none

/-- The sum of two lengths, if both are known. -/
def sum? (left right : Option Nat) : Option Nat :=
  match left, right with
  | some left, some right => some (left + right)
  | _, _ => none

mutual

/-- The number of bytes in the shortest match.  A set without characters has
none. -/
def leastLength? : Normal → Option Nat
  | .empty => some 0
  | .literal text => some (literalLength text)
  | .set chars _ => chars.spans.head?.map fun span => Unicode.encodedLength span.first
  | .anchor _ => some 0
  | .repetition inner least _ _ => inner.leastLength?.map (· * least)
  | .capture inner => inner.leastLength?
  | .concat parts => leastOfParts? parts
  | .alternation branches => leastOfBranches? branches

/-- The lengths of all parts together. -/
def leastOfParts? : List Normal → Option Nat
  | [] => some 0
  | part :: parts => sum? part.leastLength? (leastOfParts? parts)

/-- The length of the shortest branch. -/
def leastOfBranches? : List Normal → Option Nat
  | [] => none
  | [branch] => branch.leastLength?
  | branch :: branches => lesser? branch.leastLength? (leastOfBranches? branches)

end

mutual

/-- The number of bytes in the longest match, if there is such a number. -/
def mostLength? : Normal → Option Nat
  | .empty => some 0
  | .literal text => some (literalLength text)
  | .set chars _ => chars.spans.getLast?.map fun span => Unicode.encodedLength span.last
  | .anchor _ => some 0
  | .repetition inner _ (some most) _ => inner.mostLength?.map (· * most)
  | .repetition _ _ none _ => none
  | .capture inner => inner.mostLength?
  | .concat parts => mostOfParts? parts
  | .alternation branches => mostOfBranches? branches

/-- The lengths of all parts together. -/
def mostOfParts? : List Normal → Option Nat
  | [] => some 0
  | part :: parts => sum? part.mostLength? (mostOfParts? parts)

/-- The length of the longest branch. -/
def mostOfBranches? : List Normal → Option Nat
  | [] => none
  | [branch] => branch.mostLength?
  | branch :: branches => greater? branch.mostLength? (mostOfBranches? branches)

end

/-! ## Comparison -/

mutual

/-- Whether two forms are written alike.  No two groups capture the same. -/
def same : Normal → Normal → Bool
  | .empty, .empty => true
  | .literal left, .literal right => left == right
  | .set left _, .set right _ => left.spans == right.spans
  | .anchor left, .anchor right => left == right
  | .repetition left least most greedy, .repetition right least' most' greedy' =>
      least == least' && most == most' && greedy == greedy' && same left right
  | .concat lefts, .concat rights => sameEach lefts rights
  | .alternation lefts, .alternation rights => sameEach lefts rights
  | _, _ => false

/-- List counterpart of `same`. -/
def sameEach : List Normal → List Normal → Bool
  | [], [] => true
  | left :: lefts, right :: rights => same left right && sameEach lefts rights
  | _, _ => false

end

mutual

/-- How many forms a form is put together from. -/
def count : Normal → Nat
  | .repetition inner _ _ _ => inner.count + 1
  | .capture inner => inner.count + 1
  | .concat parts => countEach parts + 1
  | .alternation branches => countEach branches + 1
  | _ => 1

/-- List counterpart of `count`. -/
def countEach : List Normal → Nat
  | [] => 0
  | form :: forms => form.count + countEach forms

end

/-! ## Construction -/

/-- One character of a set. -/
def ofSet (set : Unicode.CharSet) : Normal :=
  let chars := set.scalars
  match chars.spans with
  | [span] =>
      if span.first = span.last then .literal [Char.ofNat span.first]
      else .set chars chars.sequences
  | _ => .set chars chars.sequences

/-- A form repeated.  What takes up no character is repeated at most once. -/
def repeated (inner : Normal) (least : Nat) (most : Option Nat) (greedy : Bool) : Normal :=
  let bare := inner.mostLength? == some 0
  let least := if bare then min least 1 else least
  let most := if bare then some (min (most.getD 1) 1) else most
  if least = 0 ∧ most = some 0 then .empty
  else if least = 1 ∧ most = some 1 then inner
  else .repetition inner least most greedy

/-- The parts that a part of a sequence contributes. -/
def partsOf : Normal → List Normal
  | .empty => []
  | .concat parts => parts
  | part => [part]

/-- Put a part in front of others, a literal becoming one with a literal behind
it. -/
def prependPart (part : Normal) (parts : List Normal) : List Normal :=
  match part, parts with
  | .literal text, .literal more :: rest => .literal (text ++ more) :: rest
  | part, parts => part :: parts

def ofParts (parts : List Normal) : Normal :=
  match (parts.flatMap partsOf).foldr prependPart [] with
  | [] => .empty
  | [only] => only
  | joined => .concat joined

/-- The branches that a branch of a choice contributes. -/
def branchesOf : Normal → List Normal
  | .alternation branches => branches
  | branch => [branch]

/-- The one character that a literal consists of. -/
def singleChar? : Normal → Option Unicode.CharSet
  | .literal [c] => some (.interval c.toNat c.toNat)
  | _ => none

def charSet? : Normal → Option Unicode.CharSet
  | .set chars _ => some chars
  | _ => none

/-- The set of characters that a choice amounts to, if its branches are all single
characters or all sets. -/
def choiceSet? (branches : List Normal) : Option Unicode.CharSet :=
  match branches.mapM singleChar? with
  | some sets => some (.unions sets)
  | none => (branches.mapM charSet?).map Unicode.CharSet.unions

def sequenceParts? : Normal → Option (List Normal)
  | .concat parts => some parts
  | _ => none

/-- What two sequences have in common at the start. -/
def commonStart : List Normal → List Normal → List Normal
  | left :: lefts, right :: rights =>
      if same left right then left :: commonStart lefts rights else []
  | _, _ => []

/-- What all branches of a choice have in common at the start, and what is left of
each.  They have nothing in common unless all of them are sequences. -/
def sharedStart? (branches : List Normal) : Option (List Normal × List (List Normal)) :=
  match branches.mapM sequenceParts? with
  | some (first :: others) =>
      let shared := others.foldl commonStart first
      if shared.isEmpty then none
      else some (shared, (first :: others).map fun parts => parts.drop shared.length)
  | _ => none

/-- A choice among branches.  The first argument bounds how often a common start
can be moved to the front. -/
def ofBranches : Nat → List Normal → Normal
  | bound, branches =>
      match branches.flatMap branchesOf with
      | [] => ofSet .empty
      | [only] => only
      | flat =>
          match choiceSet? flat with
          | some chars => ofSet chars
          | none =>
              match bound, sharedStart? flat with
              | bound + 1, some (shared, rests) =>
                  ofParts (shared ++ [ofBranches bound (rests.map ofParts)])
              | _, _ => .alternation flat

def ofAtom : Atom → Normal
  | .char chars _ => ofSet chars
  | .anchor condition => .anchor condition

mutual

/-- The normal form of a pattern. -/
def ofTree : Tree Atom → Normal
  | .empty => .empty
  | .leaf atom => ofAtom atom
  | .group inner true => .capture (ofTree inner)
  | .group inner false => ofTree inner
  | .repetition inner least most greedy => repeated (ofTree inner) least most greedy
  | .concat parts => ofParts (ofTrees parts)
  | .alternation branches =>
      let forms := ofTrees branches
      ofBranches (countEach forms) forms

/-- List counterpart of `ofTree`. -/
def ofTrees : List (Tree Atom) → List Normal
  | [] => []
  | tree :: trees => ofTree tree :: ofTrees trees

end

/-! ## Anchored forms -/

mutual

/-- Whether every match has to start at a position that the anchor allows. -/
def starts (anchor : Anchor) : Normal → Bool
  | .anchor other => other == anchor
  | .repetition inner least _ _ => least != 0 && inner.starts anchor
  | .capture inner => inner.starts anchor
  | .concat parts => startsFirst anchor parts
  | .alternation branches => startsEach anchor branches
  | _ => false

/-- Whether a sequence starts at the anchor. -/
def startsFirst (anchor : Anchor) : List Normal → Bool
  | [] => false
  | part :: parts =>
      part.starts anchor || (part.mostLength? == some 0 && startsFirst anchor parts)

/-- Whether every branch starts at the anchor. -/
def startsEach (anchor : Anchor) : List Normal → Bool
  | [] => true
  | branch :: branches => branch.starts anchor && startsEach anchor branches

end

mutual

/-- Whether every match has to end at a position that the anchor allows. -/
def finishes (anchor : Anchor) : Normal → Bool
  | .anchor other => other == anchor
  | .repetition inner least _ _ => least != 0 && inner.finishes anchor
  | .capture inner => inner.finishes anchor
  | .concat parts => finishesLast anchor parts
  | .alternation branches => finishesEach anchor branches
  | _ => false

/-- Whether a sequence ends at the anchor: its last part does that is not followed
by characters. -/
def finishesLast (anchor : Anchor) : List Normal → Bool
  | [] => false
  | part :: parts =>
      finishesLast anchor parts ||
        (part.finishes anchor && (mostOfParts? parts) == some 0)

/-- Whether every branch ends at the anchor. -/
def finishesEach (anchor : Anchor) : List Normal → Bool
  | [] => true
  | branch :: branches => branch.finishes anchor && finishesEach anchor branches

end

end Normal

end CheckedQuery.Pattern
