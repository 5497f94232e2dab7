import CheckedQuery.Pattern.Flags
import CheckedQuery.Pattern.Tree
import CheckedQuery.Text.Quoted

/-!
# Escapes

What follows a backslash: a character, a set of characters or an anchor.
-/

namespace CheckedQuery.Pattern

/-- What an escape, or a character by itself, stands for. -/
inductive Symbol where
  | char (c : Char)
  | set (set : Unicode.CharSet)
  | anchor (anchor : Anchor)

/-- Reading from the front of a pattern. -/
abbrev Scan (α : Type) : Type :=
  List Char → Except Fault (α × List Char)

/-- Characters with a meaning in patterns. -/
def metaChars : List Char :=
  ['\\', '.', '+', '*', '?', '(', ')', '|', '[', ']', '{', '}', '^', '$', '#', '&', '-', '~']

/-- Whether a character stands for itself behind a backslash. -/
def isEscapable (c : Char) : Bool :=
  metaChars.contains c || (c.toNat < 0x80 && !c.isAlphanum && c != '<' && c != '>')

/-- The character with a code, unless the code belongs to no character. -/
def charOfCode? (code : Nat) : Option Char :=
  if code < 0xD800 ∨ (0xE000 ≤ code ∧ code ≤ 0x10FFFF) then some (Char.ofNat code) else none

/-- A character given by its code.  Without the Unicode flag a code of two digits
beyond ASCII would be a byte of its own. -/
def codeSymbol (flags : Flags) (fixedByte : Bool) (code : Nat) : Except Fault Symbol :=
  if fixedByte ∧ flags.ascii = true ∧ 0x80 ≤ code then .error .notText
  else
    match charOfCode? code with
    | some c => .ok (.char c)
    | none => .error .invalidEscape

/-- Exactly so many hexadecimal digits, continuing from `code`. -/
def fixedHex (flags : Flags) : (count code : Nat) → Scan Nat
  | 0, code, text => .ok (code, flags.skip text)
  | _ + 1, _, [] => .error .invalidEscape
  | count + 1, code, c :: rest =>
      match Text.hexValue? c with
      | none => .error .invalidEscape
      | some digit =>
          fixedHex flags count (code * 16 + digit)
            (if count = 0 then rest else flags.skip rest)

/-- The characters up to a closing brace, without what stands for nothing. -/
def braced (flags : Flags) : (count : Nat) → Scan (List Char)
  | 0, _ => .error .invalidEscape
  | count + 1, text =>
      match flags.skip text with
      | [] => .error .invalidEscape
      | '}' :: rest => .ok ([], rest)
      | c :: rest => do
          let (others, rest) ← braced flags count rest
          return (c :: others, rest)

/-- The code of a character, with `count` digits or between braces. -/
def hexSymbol (flags : Flags) (count : Nat) : Scan Symbol := fun text =>
  match flags.skip text with
  | '{' :: rest => do
      let (digits, rest) ← braced flags (rest.length + 1) rest
      if digits.isEmpty then throw .invalidEscape
      match digits.foldlM (fun code c => (Text.hexValue? c).map (code * 16 + ·)) 0 with
      | none => throw .invalidEscape
      | some code => return (← codeSymbol flags false code, flags.skip rest)
  | text => do
      let (code, rest) ← fixedHex flags count 0 text
      return (← codeSymbol flags (count = 2) code, rest)

/-- Split a text at the first occurrence of a separator. -/
def splitAt? (separator : List Char) : List Char → Option (List Char × List Char)
  | [] => none
  | c :: rest =>
      if separator.isPrefixOf (c :: rest) then some ([], (c :: rest).drop separator.length)
      else (splitAt? separator rest).map fun (before, after) => (c :: before, after)

/-- The set that a property stands for, and whether its name negates it. -/
def propertySet? (name : List Char) : Option (Unicode.CharSet × Bool) :=
  match splitAt? ['!', '='] name with
  | some (property, value) => (Unicode.valued? property value).map fun set => (set, true)
  | none =>
      match splitAt? [':'] name with
      | some (property, value) => (Unicode.valued? property value).map fun set => (set, false)
      | none =>
          match splitAt? ['='] name with
          | some (property, value) => (Unicode.valued? property value).map fun set => (set, false)
          | none => (Unicode.named? name).map fun set => (set, false)

/-- A set of characters with a property. -/
def propertySymbol (flags : Flags) (negated : Bool) : Scan Symbol := fun text => do
  let (name, rest) ←
    match flags.skip text with
    | [] => throw .invalidEscape
    | '{' :: rest => braced flags (rest.length + 1) rest
    | c :: rest =>
        if c = '\\' then throw .unknownProperty else pure ([c], flags.skip rest)
  if flags.ascii then throw .notText
  match propertySet? name with
  | none => throw .unknownProperty
  | some (set, differs) =>
      return (.set (← flags.foldAndNegate (negated != differs) set), rest)

/-- The sets that have a letter of their own. -/
def letterSet? (flags : Flags) (letter : Char) : Option Unicode.CharSet :=
  match letter, flags.unicode with
  | 'd', true => some Unicode.digits
  | 's', true => some Unicode.whiteSpace
  | 'w', true => some Unicode.wordChars
  | 'd', false => some (.ofText ["30-39"])
  | 's', false => some (.ofText ["9-D 20"])
  | 'w', false => some (.ofText ["30-39 41-5A 5F 61-7A"])
  | _, _ => none

/-- A letter in upper case stands for the complement.  Case does not matter to
these sets. -/
def letterSymbol? (flags : Flags) (letter : Char) : Option (Except Fault Symbol) :=
  match letterSet? flags letter with
  | some set => some (.ok (.set set))
  | none =>
      if letter.isLower then none
      else
        (letterSet? flags letter.toLower).map fun set =>
          if flags.unicode then .ok (.set set.complement) else .error .notText

/-- Characters that have a letter of their own. -/
def control? (letter : Char) : Option Char :=
  match letter with
  | 'a' => some '\x07'
  | 'f' => some '\x0c'
  | 't' => some '\t'
  | 'n' => some '\n'
  | 'r' => some '\r'
  | 'v' => some '\x0b'
  | _ => none

def isAnchorLetter (c : Char) : Bool :=
  c.isAlpha || c == '-'

/-- The anchor of a name between braces. -/
def namedAnchor? (flags : Flags) (name : List Char) : Option Anchor :=
  match String.ofList name with
  | "start" => some (.wordStart flags.ascii)
  | "end" => some (.wordEnd flags.ascii)
  | "start-half" => some (.wordStartHalf flags.ascii)
  | "end-half" => some (.wordEndHalf flags.ascii)
  | _ => none

/-- The letters of a name between braces, without what stands for nothing. -/
def anchorName (flags : Flags) : (count : Nat) → List Char → List Char × List Char
  | 0, text => ([], text)
  | _ + 1, [] => ([], [])
  | count + 1, c :: rest =>
      if isAnchorLetter c then
        let (others, rest) := anchorName flags count (flags.skip rest)
        (c :: others, rest)
      else ([], c :: rest)

/-- A word boundary, which a name between braces may narrow down.  Braces that hold
no name are left to a repetition. -/
def boundarySymbol (flags : Flags) : Scan Symbol := fun text =>
  match text with
  | '{' :: rest =>
      match flags.skip rest with
      | [] => .error .invalidEscape
      | c :: inner =>
          if !isAnchorLetter c then .ok (.anchor (.wordBoundary flags.ascii), text)
          else
            match anchorName flags (inner.length + 1) (c :: inner) with
            | (name, '}' :: rest) =>
                match namedAnchor? flags name with
                | some anchor => .ok (.anchor anchor, rest)
                | none => .error .invalidEscape
            | _ => .error .invalidEscape
  | _ => .ok (.anchor (.wordBoundary flags.ascii), text)

/-- What follows a backslash. -/
def escapeSymbol (flags : Flags) : Scan Symbol
  | [] => .error .invalidEscape
  | c :: rest =>
      if c.isDigit then .error .backreference
      else if c = 'x' then hexSymbol flags 2 rest
      else if c = 'u' then hexSymbol flags 4 rest
      else if c = 'U' then hexSymbol flags 8 rest
      else if c = 'p' then propertySymbol flags false rest
      else if c = 'P' then propertySymbol flags true rest
      else if isEscapable c then .ok (.char c, rest)
      else
        match letterSymbol? flags c with
        | some symbol => symbol.map fun symbol => (symbol, rest)
        | none =>
            match control? c with
            | some plain => .ok (.char plain, rest)
            | none =>
                match c with
                | 'A' => .ok (.anchor .textStart, rest)
                | 'z' => .ok (.anchor .textEnd, rest)
                | 'b' => boundarySymbol flags rest
                | 'B' => .ok (.anchor (.noWordBoundary flags.ascii), rest)
                | '<' => .ok (.anchor (.wordStart flags.ascii), rest)
                | '>' => .ok (.anchor (.wordEnd flags.ascii), rest)
                | _ => .error .invalidEscape

end CheckedQuery.Pattern
