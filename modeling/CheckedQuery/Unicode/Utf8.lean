import CheckedQuery.Unicode.CharSet

/-!
# UTF-8

The bytes of characters.  The encodings of a span of characters fall into
sequences of byte spans: every choice of one byte from each span is the encoding
of a character, and every character of the span comes from one sequence.
-/

namespace CheckedQuery.Unicode

/-- The bytes from `first` to `last`, both included. -/
structure ByteSpan where
  first : Nat
  last : Nat
  deriving DecidableEq

/-- How many bytes the encoding of a code point has. -/
def encodedLength (code : Nat) : Nat :=
  if code < 0x80 then 1
  else if code < 0x800 then 2
  else if code < 0x10000 then 3
  else 4

/-- Code points whose encodings have the same length: the first and the last, what
is added to the leading bits of a code to give the first byte, and how many bytes
follow. -/
structure EncodedRange where
  span : Span
  mark : Nat
  rest : Nat

/-- The ranges in order.  Surrogates have no encoding. -/
def encodedRanges : List EncodedRange :=
  [ { span := { first := 0, last := 0x7F }, mark := 0, rest := 0 },
    { span := { first := 0x80, last := 0x7FF }, mark := 0xC0, rest := 1 },
    { span := { first := 0x800, last := 0xD7FF }, mark := 0xE0, rest := 2 },
    { span := { first := 0xE000, last := 0xFFFF }, mark := 0xE0, rest := 2 },
    { span := { first := 0x10000, last := 0x10FFFF }, mark := 0xF0, rest := 3 } ]

/-- The code points of a set that are characters. -/
def CharSet.scalars (set : CharSet) : CharSet :=
  set.difference (.interval 0xD800 0xDFFF)

/-- The sequences of the codes from `first` to `last`, of which each following byte
carries six bits.  The codes that share a first byte with codes outside the span
have sequences of their own. -/
def sequencesFrom (mark : Nat) : (rest first last : Nat) → List (List ByteSpan)
  | 0, first, last => [[{ first := mark + first, last := mark + last }]]
  | rest + 1, first, last =>
      let block := 1 <<< (6 * (rest + 1))
      let low := first / block
      let high := last / block
      let within (lead first last : Nat) : List (List ByteSpan) :=
        (sequencesFrom 0x80 rest first last).map
          ({ first := mark + lead, last := mark + lead } :: ·)
      if low = high then within low (first % block) (last % block)
      else
        let startsBlock := first % block = 0
        let endsBlock := last % block = block - 1
        let before := if startsBlock then [] else within low (first % block) (block - 1)
        let after := if endsBlock then [] else within high 0 (last % block)
        let lead := if startsBlock then low else low + 1
        let bound := if endsBlock then high + 1 else high
        let whole :=
          if lead < bound then
            [{ first := mark + lead, last := mark + (bound - 1) } ::
              List.replicate (rest + 1) { first := 0x80, last := 0xBF }]
          else []
        before ++ whole ++ after

/-- The sequences of a span, in the order of their characters. -/
def Span.sequences (span : Span) : List (List ByteSpan) :=
  encodedRanges.flatMap fun range =>
    let first := max span.first range.span.first
    let last := min span.last range.span.last
    if first ≤ last then
      sequencesFrom range.mark range.rest first last
    else []

/-- The sequences of a set, in the order of their characters. -/
def CharSet.sequences (set : CharSet) : List (List ByteSpan) :=
  set.spans.flatMap Span.sequences

end CheckedQuery.Unicode
