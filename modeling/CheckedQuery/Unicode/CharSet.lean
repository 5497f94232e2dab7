/-!
# Sets of characters

A set of code points is a list of spans that increase and do not touch.  Tables
of Unicode write their spans in hexadecimal: `41-5A` for a span, `AA` for one
code point, `100-12E/2` for every second code point of a span.
-/

namespace CheckedQuery.Unicode

/-- The code points from `first` to `last`, both included. -/
structure Span where
  first : Nat
  last : Nat
  deriving DecidableEq

def Span.single (code : Nat) : Span :=
  { first := code
    last := code }

structure CharSet where
  spans : List Span

namespace CharSet

/-- The largest code point. -/
def lastCode : Nat :=
  0x10FFFF

def empty : CharSet :=
  { spans := [] }

def interval (first last : Nat) : CharSet :=
  { spans := [{ first := first, last := last }] }

def all : CharSet :=
  interval 0 lastCode

/-- Join spans that touch or overlap, of spans in the order of their first code
points. -/
def join (current : Span) : List Span → List Span
  | [] => [current]
  | next :: rest =>
      if next.first ≤ current.last + 1 then
        join { current with last := max current.last next.last } rest
      else current :: join next rest

/-- The set of all code points in some span. -/
def ofSpans (spans : List Span) : CharSet :=
  match spans.mergeSort (fun left right => left.first ≤ right.first) with
  | [] => empty
  | first :: rest => { spans := join first rest }

def contains (set : CharSet) (code : Nat) : Bool :=
  go set.spans
where
  /-- Spans increase, so the first one that ends at or after the code decides. -/
  go : List Span → Bool
    | [] => false
    | span :: rest => if span.last < code then go rest else span.first ≤ code

def isEmpty (set : CharSet) : Bool :=
  set.spans.isEmpty

/-- Whether every code point is one of ASCII. -/
def isAscii (set : CharSet) : Bool :=
  set.spans.all fun span => span.last < 0x80

def union (left right : CharSet) : CharSet :=
  ofSpans (left.spans ++ right.spans)

def unions (sets : List CharSet) : CharSet :=
  ofSpans (sets.flatMap CharSet.spans)

/-- The gaps from `start` on. -/
def gaps (start : Nat) : List Span → List Span
  | [] => if start ≤ lastCode then [{ first := start, last := lastCode }] else []
  | span :: rest =>
      if start < span.first then
        { first := start, last := span.first - 1 } :: gaps (span.last + 1) rest
      else gaps (span.last + 1) rest

def complement (set : CharSet) : CharSet :=
  { spans := gaps 0 set.spans }

def inter (left right : CharSet) : CharSet :=
  (left.complement.union right.complement).complement

def difference (left right : CharSet) : CharSet :=
  left.inter right.complement

/-- What is in one set and not in the other. -/
def symmetricDifference (left right : CharSet) : CharSet :=
  (left.difference right).union (right.difference left)

def shiftUp (set : CharSet) (distance : Nat) : CharSet :=
  { spans := set.spans.map fun span =>
      { first := span.first + distance, last := span.last + distance } }

def shiftDown (set : CharSet) (distance : Nat) : CharSet :=
  { spans := set.spans.map fun span =>
      { first := span.first - distance, last := span.last - distance } }

/-! ## Tables -/

/-- The words of a line, without the blanks between them. -/
def words (line : String) : List (List Char) :=
  (line.toList.splitOn ' ').filter fun word => !word.isEmpty

/-- The value of a hexadecimal digit in upper case. -/
def digit? (c : Char) : Option Nat :=
  if '0' ≤ c ∧ c ≤ '9' then some (c.toNat - 48)
  else if 'A' ≤ c ∧ c ≤ 'F' then some (c.toNat - 55)
  else none

def code? (digits : List Char) : Option Nat :=
  if digits.isEmpty then none
  else digits.foldlM (fun code c => (digit? c).map fun digit => code * 16 + digit) 0

/-- The span of a word, and the distance between its code points. -/
def stride? (word : List Char) : Option (Span × Nat) :=
  let bounds := word.takeWhile (· != '/')
  let step := (code? (word.drop (bounds.length + 1))).getD 1
  match bounds.splitOn '-' with
  | [first] => (code? first).map fun code => (Span.single code, step)
  | [first, last] =>
      match code? first, code? last with
      | some first, some last => some ({ first := first, last := last }, step)
      | _, _ => none
  | _ => none

/-- The spans that a word of a table stands for. -/
def spansOfWord (word : List Char) : List Span :=
  match stride? word with
  | none => []
  | some (span, step) =>
      if step ≤ 1 then [span]
      else
        (List.range ((span.last - span.first) / step + 1)).map fun n =>
          Span.single (span.first + n * step)

/-- The set that the lines of a table stand for. -/
def ofText (lines : List String) : CharSet :=
  ofSpans ((lines.flatMap words).flatMap spansOfWord)

end CharSet

end CheckedQuery.Unicode
