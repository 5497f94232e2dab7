import CheckedQuery.Pattern.Bracket
import CheckedQuery.Pattern.Program
import CheckedQuery.Unicode.Name

/-!
# Reading patterns

The grammar of patterns: sequences, choices, groups with names or flags,
repetitions and the symbols in between.
-/

namespace CheckedQuery.Pattern

/-- What reading one part of a pattern leaves for the next: the flags, and the names
of the groups so far. -/
structure Context where
  flags : Flags
  names : List (List Char)

/-- The leaf of a symbol. -/
def leafOf (flags : Flags) (symbol : Symbol) : Atom :=
  match symbol with
  | .char c => .char (flags.fold (.interval c.toNat c.toNat)) 0
  | .set set => .char set 0
  | .anchor anchor => .anchor anchor

def lineStart (flags : Flags) : Anchor :=
  if !flags.multiLine then .textStart
  else if flags.mixedLines then .mixedLineStart
  else .lineStart

def lineEnd (flags : Flags) : Anchor :=
  if !flags.multiLine then .textEnd
  else if flags.mixedLines then .mixedLineEnd
  else .lineEnd

/-- One symbol of a pattern outside brackets. -/
def symbolLeaf (flags : Flags) (c : Char) : Scan Atom := fun rest =>
  if c = '\\' then
    (escapeSymbol flags rest).map fun (symbol, rest) => (leafOf flags symbol, rest)
  else if c = '.' then flags.dot.map fun set => (.char set 0, rest)
  else if c = '^' then .ok (.anchor (lineStart flags), rest)
  else if c = '$' then .ok (.anchor (lineEnd flags), rest)
  else .ok (leafOf flags (.char c), rest)

/-- Repeat the last part read.  Flags and the start of a sequence cannot be
repeated. -/
def repeatLast (least : Nat) (most : Option Nat) (greedy : Bool) (parts : List (Tree Atom)) :
    Except Fault (List (Tree Atom)) :=
  match parts with
  | [] => .error .missingOperand
  | .empty :: _ => .error .missingOperand
  | last :: before => .ok (.repetition last least most greedy :: before)

/-- Whether a repetition is greedy, which a question mark behind it changes. -/
def greediness (flags : Flags) : List Char → Bool × List Char
  | '?' :: rest => (flags.lazy, rest)
  | text => (!flags.lazy, text)

/-- A count with blanks around it.  It has to fit into 32 bits. -/
def count? (flags : Flags) (text : List Char) : Option Nat × List Char :=
  let (digits, rest) := go (text.length + 1) (text.dropWhile Text.isBlank)
  let number := digits.foldl (fun value c => value * 10 + (c.toNat - 48)) 0
  let rest := flags.skip (rest.dropWhile Text.isBlank)
  (if digits.isEmpty || 4294967296 ≤ number then none else some number, rest)
where
  go : Nat → List Char → List Char × List Char
    | 0, text => ([], text)
    | _ + 1, [] => ([], [])
    | count + 1, c :: rest =>
        if c.isDigit then
          let (digits, rest) := go count (flags.skip rest)
          (c :: digits, rest)
        else ([], c :: rest)

/-- The counts of a repetition, after the opening brace. -/
def counts (flags : Flags) : Scan (Nat × Option Nat) := fun text =>
  match count? flags (flags.skip text) with
  | (some least, '}' :: rest) => .ok ((least, some least), flags.skip rest)
  | (some least, ',' :: rest) =>
      match flags.skip rest with
      | '}' :: rest => .ok ((least, none), flags.skip rest)
      | rest =>
          match count? flags rest with
          | (some most, '}' :: rest) =>
              if most < least then .error .invalidCount
              else .ok ((least, some most), flags.skip rest)
          | _ => .error .invalidCount
  | _ => .error .invalidCount

def isNameStart (c : Char) : Bool :=
  c == '_' || Unicode.alphabetic.contains c.toNat

def isNameRest (c : Char) : Bool :=
  c == '_' || c == '.' || c == '[' || c == ']' || Unicode.alphanumeric.contains c.toNat

/-- The name of a group, up to its closing angle. -/
def groupName (names : List (List Char)) : Scan (List Char) := fun text =>
  let name := text.takeWhile (· != '>')
  match name, text.drop name.length with
  | first :: others, '>' :: rest =>
      if !isNameStart first || !others.all isNameRest then .error .invalidGroupName
      else if names.contains name then .error .duplicateGroupName
      else .ok (name, rest)
  | _, _ => .error .invalidGroupName

/-- What an opening parenthesis starts. -/
inductive Opening where
  /-- A group that is read with these flags, and whether it captures. -/
  | group (inner : Flags) (captures : Bool)
  /-- Flags for the rest of the group around them. -/
  | flags (changed : Flags)

def isLookAround (text : List Char) : Bool :=
  ["?=", "?!", "?<=", "?<!"].any fun start => start.toList.isPrefixOf text

/-- What follows an opening parenthesis, up to the inside of the group. -/
def groupOpening (context : Context) : Scan (Opening × List (List Char)) := fun text =>
  let flags := context.flags
  let text := flags.skip text
  if isLookAround text then .error .lookAround
  else
    match text with
    | '?' :: 'P' :: '<' :: rest => named rest
    | '?' :: '<' :: rest => named rest
    | '?' :: rest => do
        let letters := rest.takeWhile fun c => c != ':' && c != ')'
        match rest.drop letters.length with
        | ':' :: rest =>
            return ((.group (← flags.change letters) false, context.names), rest)
        | ')' :: rest =>
            if letters.isEmpty then throw .missingOperand
            return ((.flags (← flags.change letters), context.names), rest)
        | _ => throw .unclosedGroup
    | _ => .ok ((.group flags true, context.names), text)
where
  named (rest : List Char) : Except Fault ((Opening × List (List Char)) × List Char) := do
    let (name, rest) ← groupName context.names rest
    return ((.group context.flags true, name :: context.names), rest)

/-- What has been read of a group: the branches before the last, and the parts of
the last, both from the end. -/
structure Body where
  branches : List (Tree Atom)
  parts : List (Tree Atom)

namespace Body

def empty : Body :=
  { branches := []
    parts := [] }

def push (body : Body) (part : Tree Atom) : Body :=
  { body with parts := part :: body.parts }

/-- Start another branch. -/
def divide (body : Body) : Body :=
  { branches := .ofParts body.parts.reverse :: body.branches
    parts := [] }

def tree (body : Body) : Tree Atom :=
  .ofBranches body.divide.branches.reverse

end Body

/-- Read the rest of a group, or of the whole pattern if `inGroup` is false.  The
first argument bounds the length of the text. -/
def readBody : Nat → Bool → Context → Body → List Char →
    Except Fault (Tree Atom × Context × List Char)
  | 0, _, _, _, _ => .error .unclosedGroup
  | count + 1, inGroup, context, body, text =>
      match context.flags.skip text with
      | [] => if inGroup then .error .unclosedGroup else .ok (body.tree, context, [])
      | c :: rest =>
          if c = '(' then do
            let ((start, names), rest) ← groupOpening context rest
            match start with
            | .flags changed =>
                readBody count inGroup { flags := changed, names := names }
                  (body.push .empty) rest
            | .group inner captures =>
                let (tree, after, rest) ←
                  readBody count true { flags := inner, names := names } .empty rest
                readBody count inGroup { context with names := after.names }
                  (body.push (.group tree captures)) rest
          else if c = ')' then
            if inGroup then .ok (body.tree, context, rest) else .error .unopenedGroup
          else if c = '|' then readBody count inGroup context body.divide rest
          else if c = '[' then do
            let (found, rest) ← bracketSet context.flags rest
            readBody count inGroup context
              (body.push (.leaf (.char found.set found.nesting))) rest
          else if c = '?' || c = '*' || c = '+' then do
            let least := if c = '+' then 1 else 0
            let most := if c = '?' then some 1 else none
            let (greedy, rest) := greediness context.flags rest
            let parts ← repeatLast least most greedy body.parts
            readBody count inGroup context { body with parts := parts } rest
          else if c = '{' then do
            let ((least, most), rest) ← counts context.flags rest
            let (greedy, rest) := greediness context.flags rest
            let parts ← repeatLast least most greedy body.parts
            readBody count inGroup context { body with parts := parts } rest
          else do
            let (leaf, rest) ← symbolLeaf context.flags c rest
            readBody count inGroup context (body.push (.leaf leaf)) rest

/-- How deep a pattern may be. -/
def depthLimit : Nat :=
  250

/-- The tree of a pattern. -/
def Tree.ofText (text : List Char) : Except Fault (Tree Atom) := do
  let (tree, _, _) ←
    readBody (text.length + 1) false { flags := .initial, names := [] } .empty text
  if depthLimit < tree.depth Atom.nesting then throw .tooDeep
  if !tree.fits then throw .tooLarge
  return tree

end CheckedQuery.Pattern
