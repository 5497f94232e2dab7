import CheckedQuery.Pattern.Escape

/-!
# Bracketed sets

A set between brackets lists characters, ranges and other sets.  Operators
between two lists take what both have, what only the first has, or what exactly one
has; they bind alike and from the left.
-/

namespace CheckedQuery.Pattern

/-- An operator between two sets. -/
inductive SetOperator where
  | intersection
  | difference
  | symmetricDifference

/-- A set with the depth of its notation. -/
structure Rated where
  set : Unicode.CharSet
  nesting : Nat

/-- What has been read of a bracketed set: the operand and operator that wait for
another operand, and the items of that operand. -/
structure Bracket where
  pending : Option (Rated × SetOperator)
  items : List Rated

namespace Bracket

/-- Add an item. -/
def push (bracket : Bracket) (set : Unicode.CharSet) (nesting : Nat) : Bracket :=
  { bracket with items := { set := set, nesting := nesting } :: bracket.items }

/-- All items together. -/
def operand (bracket : Bracket) : Rated :=
  match bracket.items with
  | [] => { set := .empty, nesting := 0 }
  | [only] => only
  | items =>
      { set := .unions (items.map Rated.set)
        nesting := (items.map Rated.nesting).foldl max 0 + 1 }

/-- Everything read so far.  The operands of an operator are folded before it is
applied. -/
def total (flags : Flags) (bracket : Bracket) : Rated :=
  let right := bracket.operand
  match bracket.pending with
  | none => right
  | some (left, operator) =>
      let first := flags.fold left.set
      let second := flags.fold right.set
      { set := match operator with
          | .intersection => first.inter second
          | .difference => first.difference second
          | .symmetricDifference => first.symmetricDifference second
        nesting := max left.nesting right.nesting + 1 }

/-- Everything read so far becomes the left operand of an operator. -/
def operate (flags : Flags) (operator : SetOperator) (bracket : Bracket) : Bracket :=
  { pending := some (bracket.total flags, operator)
    items := [] }

end Bracket

/-- The sets of ASCII that have a name. -/
def asciiSet? (name : List Char) : Option Unicode.CharSet :=
  let lines : Option String :=
    match String.ofList name with
    | "alnum" => some "30-39 41-5A 61-7A"
    | "alpha" => some "41-5A 61-7A"
    | "ascii" => some "0-7F"
    | "blank" => some "9 20"
    | "cntrl" => some "0-1F 7F"
    | "digit" => some "30-39"
    | "graph" => some "21-7E"
    | "lower" => some "61-7A"
    | "print" => some "20-7E"
    | "punct" => some "21-2F 3A-40 5B-60 7B-7E"
    | "space" => some "9-D 20"
    | "upper" => some "41-5A"
    | "word" => some "30-39 41-5A 5F 61-7A"
    | "xdigit" => some "30-39 41-46 61-66"
    | _ => none
  lines.map fun line => .ofText [line]

/-- A named set of ASCII, after its opening bracket: a colon, a name, a colon and a
bracket.  A circumflex in front of the name negates it. -/
def namedAscii? (text : List Char) : Option (Unicode.CharSet × Bool × List Char) :=
  match text with
  | ':' :: rest =>
      let (negated, rest) := match rest with
        | '^' :: rest => (true, rest)
        | rest => (false, rest)
      match splitAt? [':'] rest with
      | some (name, ']' :: rest) => (asciiSet? name).map fun set => (set, negated, rest)
      | _ => none
  | _ => none

/-- A character of a bracketed set.  Without the Unicode flag it is one of ASCII. -/
def memberChar (flags : Flags) (symbol : Symbol) : Except Fault Char :=
  match symbol with
  | .char c => if flags.ascii && 0x80 ≤ c.toNat then .error .notText else .ok c
  | _ => .error .invalidRange

/-- An item that is no range. -/
def memberSet (flags : Flags) (symbol : Symbol) : Except Fault Unicode.CharSet :=
  match symbol with
  | .char _ => do
      let c ← memberChar flags symbol
      return .interval c.toNat c.toNat
  | .set set => .ok set
  | .anchor _ => .error .invalidEscape

/-- A character by itself or an escape. -/
def memberSymbol (flags : Flags) : Scan Symbol
  | [] => .error .unclosedClass
  | '\\' :: rest => escapeSymbol flags rest
  | c :: rest => .ok (.char c, rest)

/-- The first character that is neither a blank nor the first number sign.  The rest
of a comment counts here, unlike elsewhere. -/
def firstSolid? (pastSign : Bool) : List Char → Option Char
  | [] => none
  | c :: rest =>
      if Text.isBlank c then firstSolid? pastSign rest
      else if c = '#' ∧ pastSign = false then firstSolid? true rest
      else some c

/-- The character that decides what a minus in front of it means. -/
def afterMinus? (flags : Flags) (text : List Char) : Option Char :=
  if flags.extended then (firstSolid? false text).or text.head? else text.head?

/-- Whether a minus after an item starts a range.  It does not before a closing
bracket or another minus. -/
def startsRange (flags : Flags) (text : List Char) : Bool :=
  match text with
  | '-' :: rest =>
      let next := afterMinus? flags rest
      next != some ']' && next != some '-'
  | _ => false

/-- An item or a range. -/
def member (flags : Flags) : Scan Unicode.CharSet := fun text => do
  let (first, rest) ← memberSymbol flags text
  let rest := flags.skip rest
  if rest.isEmpty then throw .unclosedClass
  if startsRange flags rest then
    let (last, rest) ← memberSymbol flags (flags.skip (rest.drop 1))
    let low ← memberChar flags first
    let high ← memberChar flags last
    if high < low then throw .invalidRange
    return (.interval low.toNat high.toNat, rest)
  else
    return (← memberSet flags first, rest)

/-- The minus signs at the start of a bracketed set stand for themselves. -/
def openingMinus (flags : Flags) (bracket : Bracket) :
    (count : Nat) → List Char → Bracket × List Char
  | 0, text => (bracket, text)
  | count + 1, '-' :: rest =>
      openingMinus flags (bracket.push (.interval 0x2D 0x2D) 0) count (flags.skip rest)
  | _ + 1, text => (bracket, text)

/-- The start of a bracketed set: whether it is negated, and the characters that
stand for themselves there.  A closing bracket is one of them if it comes first. -/
def opening (flags : Flags) (text : List Char) : Bool × Bracket × List Char :=
  let text := flags.skip text
  let (negated, text) := match text with
    | '^' :: rest => (true, flags.skip rest)
    | text => (false, text)
  let (bracket, text) :=
    openingMinus flags { pending := none, items := [] } text.length text
  match bracket.items, text with
  | [], ']' :: rest => (negated, bracket.push (.interval 0x5D 0x5D) 0, flags.skip rest)
  | _, text => (negated, bracket, text)

/-- The inside of a bracketed set up to its closing bracket, which the first
argument bounds in length. -/
def bracketed (flags : Flags) : Nat → Bool → Bracket → Scan Rated
  | 0, _, _, _ => .error .unclosedClass
  | count + 1, negated, bracket, text =>
      match flags.skip text with
      | [] => .error .unclosedClass
      | ']' :: rest => do
          let total := bracket.total flags
          let set ← flags.foldAndNegate negated total.set
          return ({ set := set, nesting := total.nesting + 1 }, rest)
      | '[' :: rest =>
          match namedAscii? rest with
          | some (set, isNegated, rest) => do
              let set ← flags.foldAndNegate isNegated set
              bracketed flags count negated (bracket.push set 0) rest
          | none => do
              let (innerNegated, inner, rest) := opening flags rest
              let (nested, rest) ← bracketed flags count innerNegated inner rest
              bracketed flags count negated (bracket.push nested.set nested.nesting) rest
      | '&' :: '&' :: rest =>
          bracketed flags count negated (bracket.operate flags .intersection) rest
      | '-' :: '-' :: rest =>
          bracketed flags count negated (bracket.operate flags .difference) rest
      | '~' :: '~' :: rest =>
          bracketed flags count negated (bracket.operate flags .symmetricDifference) rest
      | text => do
          let (set, rest) ← member flags text
          bracketed flags count negated (bracket.push set 0) rest

/-- A bracketed set, after its opening bracket. -/
def bracketSet (flags : Flags) : Scan Rated := fun text =>
  let (negated, bracket, rest) := opening flags text
  bracketed flags (text.length + 1) negated bracket rest

end CheckedQuery.Pattern
