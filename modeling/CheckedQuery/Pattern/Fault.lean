/-!
# Faults in patterns

The ways in which a text can fail to be a pattern.
-/

namespace CheckedQuery.Pattern

inductive Fault where
  | unclosedGroup
  | unopenedGroup
  | lookAround
  | invalidGroupName
  | duplicateGroupName
  | invalidFlags
  | missingOperand
  | invalidCount
  | invalidEscape
  | backreference
  | unknownProperty
  | unclosedClass
  | invalidRange
  | notText
  | tooDeep
  | tooLarge
  deriving DecidableEq

def Fault.message : Fault → String
  | .unclosedGroup => "unclosed group"
  | .unopenedGroup => "unopened group"
  | .lookAround => "look-around is not supported"
  | .invalidGroupName => "invalid group name"
  | .duplicateGroupName => "duplicate group name"
  | .invalidFlags => "invalid flags"
  | .missingOperand => "repetition operator without operand"
  | .invalidCount => "invalid repetition count"
  | .invalidEscape => "invalid escape sequence"
  | .backreference => "backreferences are not supported"
  | .unknownProperty => "unknown Unicode property"
  | .unclosedClass => "unclosed character class"
  | .invalidRange => "invalid character class range"
  | .notText => "pattern can match bytes that are no text"
  | .tooDeep => "pattern is nested too deeply"
  | .tooLarge => "pattern is too large"

end CheckedQuery.Pattern
