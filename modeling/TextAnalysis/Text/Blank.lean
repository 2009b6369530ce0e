import TextAnalysis.Text.Ranges

/-!
# Blank characters

The characters with the Unicode property `White_Space`, and text with the blanks at both ends taken
off.
-/

namespace TextAnalysis.Text

/-- The code points of blank characters. -/
def blankRanges : Ranges :=
  [(0x9, 0xD), (0x20, 0x20), (0x85, 0x85), (0xA0, 0xA0), (0x1680, 0x1680), (0x2000, 0x200A),
   (0x2028, 0x2029), (0x202F, 0x202F), (0x205F, 0x205F), (0x3000, 0x3000)]

/-- Whether a character is blank. -/
def isBlank (c : Char) : Bool := blankRanges.contains c.toNat

/-- The characters without the blanks at their end. -/
def trimEnd (cs : List Char) : List Char := (cs.reverse.dropWhile isBlank).reverse

/-- The text without the blanks at its two ends. -/
def trim (s : String) : String := String.ofList (trimEnd (s.toList.dropWhile isBlank))

/-- The text with its ASCII capitals made small. -/
def asciiLowercase (s : String) : String := String.ofList (s.toList.map Char.toLower)

end TextAnalysis.Text
