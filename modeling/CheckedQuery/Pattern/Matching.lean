import CheckedQuery.Pattern.Tree
import CheckedQuery.Unicode.Property

/-!
# Matches of patterns

A set of positions in a text is a number whose binary digits say which positions
belong to it.  For every part of a pattern, `Tree.ends` takes the positions where a
match of the part may start to all those where one of these matches ends.
-/

namespace CheckedQuery.Pattern

/-- The positions at which a list of truths holds, counted from zero. -/
def positionsOf (truths : List Bool) : Nat :=
  truths.foldr (fun truth positions => 2 * positions + truth.toNat) 0

/-- A leaf in a given text: the positions where it matches, and whether a match
goes on to the next position. -/
structure Step where
  positions : Nat
  advances : Bool

/-- Take `move` so many times, or until nothing changes. -/
def repeatExactly (move : Nat → Nat) : Nat → Nat → Nat
  | 0, positions => positions
  | count + 1, positions =>
      let next := move positions
      if next = positions then positions else repeatExactly move count next

/-- Take `move` up to so many times, keeping all positions on the way. -/
def repeatUpTo (move : Nat → Nat) : Nat → Nat → Nat
  | 0, positions => positions
  | count + 1, positions =>
      let next := positions ||| move positions
      if next = positions then positions else repeatUpTo move count next

mutual

/-- Where the matches end that start at some of the positions, in a text with
`length` characters. -/
def Tree.ends (length : Nat) : Tree Step → Nat → Nat
  | .empty, positions => positions
  | .leaf step, positions =>
      let here := positions &&& step.positions
      if step.advances then here <<< 1 else here
  | .group inner _, positions => inner.ends length positions
  | .repetition inner least none _, positions =>
      repeatUpTo (inner.ends length) (length + 1)
        (repeatExactly (inner.ends length) least positions)
  | .repetition inner least (some most) _, positions =>
      repeatUpTo (inner.ends length) (most - least)
        (repeatExactly (inner.ends length) least positions)
  | .concat parts, positions => Tree.endsOfSequence length parts positions
  | .alternation branches, positions => Tree.endsOfChoice length branches positions

/-- Where matches of all parts after each other end. -/
def Tree.endsOfSequence (length : Nat) : List (Tree Step) → Nat → Nat
  | [], positions => positions
  | part :: parts, positions =>
      Tree.endsOfSequence length parts (part.ends length positions)

/-- Where matches of any of the branches end. -/
def Tree.endsOfChoice (length : Nat) : List (Tree Step) → Nat → Nat
  | [], _ => 0
  | branch :: branches, positions =>
      branch.ends length positions ||| Tree.endsOfChoice length branches positions

end

/-- The characters of words in ASCII. -/
def asciiWordChars : Unicode.CharSet :=
  .ofText ["30-39 41-5A 5F 61-7A"]

/-- Whether an anchor holds between two neighbours, of which the first and the last
position have only one. -/
def Anchor.holds (isWord : Bool → Char → Bool) (anchor : Anchor)
    (before after : Option Char) : Bool :=
  match anchor with
  | .textStart => before.isNone
  | .textEnd => after.isNone
  | .lineStart => before.isNone || before == some '\n'
  | .lineEnd => after.isNone || after == some '\n'
  | .mixedLineStart =>
      before.isNone || before == some '\n' ||
        (before == some '\r' && after != some '\n')
  | .mixedLineEnd =>
      after.isNone || after == some '\r' ||
        (after == some '\n' && before != some '\r')
  | .wordBoundary ascii => before.any (isWord ascii) != after.any (isWord ascii)
  | .noWordBoundary ascii => before.any (isWord ascii) == after.any (isWord ascii)
  | .wordStart ascii => !before.any (isWord ascii) && after.any (isWord ascii)
  | .wordEnd ascii => before.any (isWord ascii) && !after.any (isWord ascii)
  | .wordStartHalf ascii => !before.any (isWord ascii)
  | .wordEndHalf ascii => !after.any (isWord ascii)

/-- The truths of an anchor at every position of a text after `before`. -/
def Anchor.truths (isWord : Bool → Char → Bool) (anchor : Anchor) (before : Option Char) :
    List Char → List Bool
  | [] => [anchor.holds isWord before none]
  | c :: rest => anchor.holds isWord before (some c) :: anchor.truths isWord (some c) rest

/-- The steps that a leaf allows in a text. -/
def Atom.locate (isWord : Bool → Char → Bool) (text : List Char) : Atom → Step
  | .char set _ =>
      { positions := positionsOf (text.map fun c => set.contains c.toNat)
        advances := true }
  | .anchor condition =>
      { positions := positionsOf (condition.truths isWord none text)
        advances := false }

/-- Whether the text has a match of the pattern anywhere. -/
def Tree.hasMatch (tree : Tree Atom) (text : List Char) : Bool :=
  let isWord (ascii : Bool) (c : Char) : Bool :=
    if ascii then asciiWordChars.contains c.toNat else Unicode.wordChars.contains c.toNat
  let located := tree.map (Atom.locate isWord text)
  located.ends text.length ((1 <<< (text.length + 1)) - 1) != 0

end CheckedQuery.Pattern
