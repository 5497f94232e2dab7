/-!
# Blanks

Characters with the Unicode property White_Space, and runs of them at the ends
of a text.
-/

namespace CheckedQuery.Text

/-- The Unicode property White_Space. -/
def isBlank (c : Char) : Bool :=
  let code := c.toNat
  (0x9 ≤ code && code ≤ 0xD) || code == 0x20 || code == 0x85 || code == 0xA0 ||
    code == 0x1680 || (0x2000 ≤ code && code ≤ 0x200A) || code == 0x2028 ||
    code == 0x2029 || code == 0x202F || code == 0x205F || code == 0x3000

def skipBlanks (text : List Char) : List Char :=
  text.dropWhile isBlank

def strip (text : List Char) : List Char :=
  (skipBlanks (skipBlanks text).reverse).reverse

end CheckedQuery.Text
