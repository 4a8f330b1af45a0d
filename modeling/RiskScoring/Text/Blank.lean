/-!
# White space

The characters that count as blank when texts are trimmed and lines are looked at: the Unicode
property `White_Space`.
-/

namespace RiskScoring

/-- Whether a character is white space. -/
def isBlank (c : Char) : Bool :=
  let code := c.toNat
  (0x09 ≤ code && code ≤ 0x0D) || code == 0x20 || code == 0x85 || code == 0xA0 ||
    code == 0x1680 || (0x2000 ≤ code && code ≤ 0x200A) || code == 0x2028 || code == 0x2029 ||
    code == 0x202F || code == 0x205F || code == 0x3000

/-- Drops white space at the start. -/
def dropBlanks (text : List Char) : List Char := text.dropWhile isBlank

/-- Drops white space on both sides. -/
def trimBlanks (text : List Char) : List Char :=
  (dropBlanks (dropBlanks text).reverse).reverse

end RiskScoring
