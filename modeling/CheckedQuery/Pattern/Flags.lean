import CheckedQuery.Pattern.Fault
import CheckedQuery.Text.Blank
import CheckedQuery.Unicode.Folding
import CheckedQuery.Unicode.Lookup

/-!
# Flags

Flags say how the rest of a group is read.  Without the Unicode flag a pattern is
about ASCII, and what could match other bytes of a text is refused.
-/

namespace CheckedQuery.Pattern

structure Flags where
  ignoreCase : Bool
  multiLine : Bool
  dotAll : Bool
  mixedLines : Bool
  unicode : Bool
  /-- Repetitions are lazy unless a question mark follows them. -/
  lazy : Bool
  /-- Blanks and comments in the pattern stand for nothing. -/
  extended : Bool

namespace Flags

def initial : Flags :=
  { ignoreCase := false
    multiLine := false
    dotAll := false
    mixedLines := false
    unicode := true
    lazy := false
    extended := false }

/-- Turn one flag on or off. -/
def set? (flags : Flags) (name : Char) (on : Bool) : Option Flags :=
  match name with
  | 'i' => some { flags with ignoreCase := on }
  | 'm' => some { flags with multiLine := on }
  | 's' => some { flags with dotAll := on }
  | 'R' => some { flags with mixedLines := on }
  | 'u' => some { flags with unicode := on }
  | 'x' => some { flags with extended := on }
  | 'U' => some { flags with lazy := on }
  | _ => none

/-- Change the flags that a list of letters names.  The letters behind a minus are
turned off.  No letter and no minus may occur twice, nor a minus without letters. -/
def change (flags : Flags) (letters : List Char) : Except Fault Flags :=
  go flags true [] letters
where
  go (flags : Flags) (on : Bool) (seen : List Char) : List Char → Except Fault Flags
    | [] => if seen.head? = some '-' then .error .invalidFlags else .ok flags
    | letter :: letters =>
        if seen.contains letter then .error .invalidFlags
        else if letter = '-' then go flags false (letter :: seen) letters
        else
          match flags.set? letter on with
          | some changed => go changed on (letter :: seen) letters
          | none => .error .invalidFlags

/-- Whether anchors and words are those of ASCII. -/
def ascii (flags : Flags) : Bool :=
  !flags.unicode

/-- Add what differs only in case, if case does not matter. -/
def fold (flags : Flags) (set : Unicode.CharSet) : Unicode.CharSet :=
  if !flags.ignoreCase then set
  else if flags.unicode then Unicode.closeCase set
  else Unicode.closeAsciiCase set

/-- Fold a set and then take its complement, if `negated`. -/
def foldAndNegate (flags : Flags) (negated : Bool) (set : Unicode.CharSet) :
    Except Fault Unicode.CharSet :=
  let folded := flags.fold set
  if !negated then .ok folded
  else if flags.unicode then .ok folded.complement
  else .error .notText

/-- What a dot stands for. -/
def dot (flags : Flags) : Except Fault Unicode.CharSet :=
  if !flags.unicode then .error .notText
  else if flags.dotAll then .ok .all
  else if flags.mixedLines then .ok (Unicode.CharSet.ofText ["A", "D"]).complement
  else .ok (Unicode.CharSet.interval 0xA 0xA).complement

/-- Skip blanks and comments, a comment reaching to the end of its line. -/
def skipComments (inComment : Bool) : List Char → List Char
  | [] => []
  | c :: rest =>
      if inComment then skipComments (c != '\n') rest
      else if Text.isBlank c then skipComments false rest
      else if c = '#' then skipComments true rest
      else c :: rest

/-- Skip what stands for nothing. -/
def skip (flags : Flags) (text : List Char) : List Char :=
  if flags.extended then skipComments false text else text

end Flags

end CheckedQuery.Pattern
