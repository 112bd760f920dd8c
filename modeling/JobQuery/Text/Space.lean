/-!
# White space

The Unicode `White_Space` characters: the ASCII blanks and controls `\t \n \x0B \x0C \r`
and space, next line (U+0085), no-break space (U+00A0), ogham space mark (U+1680), the
spaces U+2000 to U+200A, the line and paragraph separators (U+2028, U+2029), narrow
no-break space (U+202F), medium mathematical space (U+205F) and ideographic space (U+3000).
A text is blank when it holds nothing else.
-/

namespace JobQuery.Text

/-- Whether a character is Unicode white space. -/
def isSpace (c : Char) : Bool :=
  let n := c.toNat
  (9 ≤ n && n ≤ 13) || n == 32 || n == 0x85 || n == 0xA0 || n == 0x1680 ||
    (0x2000 ≤ n && n ≤ 0x200A) || n == 0x2028 || n == 0x2029 || n == 0x202F ||
    n == 0x205F || n == 0x3000

/-- Whether a text is empty once white space is trimmed from both ends. -/
def isBlank (s : String) : Bool := s.toList.all isSpace

end JobQuery.Text
