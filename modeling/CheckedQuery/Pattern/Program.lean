import CheckedQuery.Pattern.LiteralTree
import CheckedQuery.Pattern.Normal
import CheckedQuery.Pattern.Program.CharStates

/-!
# Programs of patterns

A pattern is turned into two programs over the bytes of a text, one that reads
forward and one that reads backward.  It is refused if one of them takes more than
ten mebibytes.
-/

namespace CheckedQuery.Pattern

/-- The direction in which a program reads. -/
inductive Direction where
  | forward
  | backward

/-- A list in the order in which a program reads it. -/
def Direction.order {α : Type} (direction : Direction) (parts : List α) : List α :=
  match direction with
  | .forward => parts
  | .backward => parts.reverse

/-! ## Sequences and choices -/

/-- Add stretches one behind the other. -/
def addInTurn (adders : List (Meter → Stretch)) (meter : Meter) : Stretch :=
  match adders with
  | [] => .plain (meter.addStates 1)
  | first :: others => others.foldl Stretch.andThen (first meter)

/-- Add a branch to a choice: an entry for it, and its way to the state behind the
choice. -/
def addBranch (meter : Meter) (add : Meter → Stretch) : Meter :=
  let branch := add meter
  branch.link (branch.meter.addEntries 1)

/-- Add branches.  The choice among them and the state behind it come after the
second branch, with which it is clear that there is a choice. -/
def addBranches (adders : List (Meter → Stretch)) (meter : Meter) : Stretch :=
  match adders with
  | [] => .plain (meter.addStates 1)
  | [only] => only meter
  | first :: second :: others =>
      let meter := (addBranch (addBranch meter first) second).addStates 2
      .plain (others.foldl addBranch meter)

def literal? : Normal → Option (List Char)
  | .literal text => some text
  | _ => none

/-- The tree of literals, which a program reads from their ends if it reads
backward. -/
def Direction.literalTree (direction : Direction) (literals : List (List Char)) :
    LiteralTree :=
  .ofLiterals (literals.map fun text =>
    direction.order (text.flatMap String.utf8EncodeChar))

/-! ## Repetitions -/

/-- Add a part so many times behind a stretch.  Nothing more is added to a program
that is too large already. -/
def addCopies (add : Meter → Stretch) : (count : Nat) → Stretch → Stretch
  | 0, stretch => stretch
  | count + 1, stretch =>
      if stretch.meter.isExceeded then stretch
      else addCopies add count (stretch.andThen add)

/-- Add a part so many times, one behind the other. -/
def addExactly (add : Meter → Stretch) (count : Nat) (meter : Meter) : Stretch :=
  match count with
  | 0 => .plain (meter.addStates 1)
  | count + 1 => addCopies add count (add meter)

/-- A choice between a part and no part. -/
def addOption (add : Meter → Stretch) (meter : Meter) : Stretch :=
  let inner := add (meter.addStates 1)
  { inner with meter := inner.meter.addEntries 2 }

/-- Add a part at least so many times.  A part that can be empty and that may be left
out takes a second choice. -/
def addAtLeast (add : Meter → Stretch) (takesUp : Bool) (least : Nat) (meter : Meter) :
    Stretch :=
  match least with
  | 0 =>
      if takesUp then
        let inner := add (meter.addStates 1)
        .choice (inner.link (inner.meter.addEntries 1))
      else
        let inner := add meter
        .plain (inner.link ((inner.meter.addStates 3).addEntries 4))
  | 1 =>
      let inner := add meter
      .choice (inner.link ((inner.meter.addStates 1).addEntries 1))
  | least + 2 =>
      let front := addExactly add (least + 1) meter
      let last := front.andThen add
      .choice (last.link ((last.meter.addStates 1).addEntries 1))

/-- Add a part so many times or more, up to a greatest number.  The options all lead
to one state behind them. -/
def addBetween (add : Meter → Stretch) (least most : Nat) (meter : Meter) : Stretch :=
  let front := addExactly add least meter
  if most ≤ least then front
  else
    let behind := { front with meter := front.meter.addStates 1 }
    let last := addCopies (addOption add) (most - least) behind
    .plain (last.link last.meter)

/-- Add a repeated part. -/
def addRepeated (add : Meter → Stretch) (takesUp : Bool) (least : Nat) (most : Option Nat)
    (meter : Meter) : Stretch :=
  match least, most with
  | least, none => addAtLeast add takesUp least meter
  | 0, some 1 =>
      let inner := addOption add meter
      .plain (inner.link (inner.meter.addStates 1))
  | least, some most => addBetween add least most meter

/-! ## Whole patterns -/

/-- Add one character of a set.  For ASCII a single list is enough. -/
def addChar (direction : Direction) (chars : Unicode.CharSet)
    (sequences : List (List Unicode.ByteSpan)) (meter : Meter) : Meter :=
  if chars.isAscii then (meter.addStates 1).addSpans chars.spans.length
  else
    match direction with
    | .forward => addForwardChar sequences meter
    | .backward => addBackwardChar sequences meter

namespace Normal

mutual

/-- Add a form to a program, unless the program is too large already. -/
def addTo (direction : Direction) (form : Normal) (meter : Meter) : Stretch :=
  if meter.isExceeded then .plain meter
  else
    match form with
    | .empty => .plain (meter.addStates 1)
    | .literal text => .plain (meter.addStates (literalLength text))
    | .set chars sequences => .plain (addChar direction chars sequences meter)
    | .anchor _ => .plain (meter.addStates 1)
    | .repetition inner least most _ =>
        addRepeated (inner.addTo direction) (inner.leastLength?.any (0 < ·)) least most meter
    | .capture inner =>
        match direction with
        | .forward =>
            let inner := addTo .forward inner (meter.addStates 1)
            .plain (inner.link (inner.meter.addStates 1))
        | .backward => addTo .backward inner meter
    | .concat parts => addInTurn (direction.order (adders direction parts)) meter
    | .alternation branches =>
        match branches.mapM literal? with
        | some literals =>
            .plain ((direction.literalTree literals).addTo (meter.addStates 1))
        | none => addBranches (adders direction branches) meter

/-- List counterpart of `addTo`. -/
def adders (direction : Direction) : List Normal → List (Meter → Stretch)
  | [] => []
  | form :: forms => form.addTo direction :: adders direction forms

end

/-- The program of a form.  A match may start behind other bytes unless the form is
anchored; only a program that reads forward notes where the match starts and
ends. -/
def program (form : Normal) (direction : Direction) : Meter :=
  let anchored :=
    match direction with
    | .forward => form.starts .textStart
    | .backward => form.finishes .textEnd
  let before :=
    if anchored then Meter.empty.addStates 1
    else ((Meter.empty.addStates 2).addSpans 1).addEntries 2
  let body := (Normal.capture form).addTo direction before
  body.link (body.meter.addStates 1)

end Normal

/-- How many literals make a choice among them a word list. -/
def wordListLength : Nat :=
  3000

/-- Whether a form is a choice among many literals.  A word list is searched for
without a program. -/
def Normal.isWordList : Normal → Bool
  | .alternation branches =>
      wordListLength ≤ branches.length && branches.all fun branch => (literal? branch).isSome
  | _ => false

/-- Whether both programs of a pattern are small enough, or not needed. -/
def Tree.fits (tree : Tree Atom) : Bool :=
  let form := Normal.ofTree tree
  form.isWordList ||
    (!(form.program .backward).isExceeded && !(form.program .forward).isExceeded)

end CheckedQuery.Pattern
