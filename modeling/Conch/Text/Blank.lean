/-!
Blank characters: the characters that are white space in the sense of Unicode (bidirectional
classes WS, B and S, or category Zs). Besides space, tab and the line breaks these are the
information separators U+001C to U+001F, U+0085, the no-break spaces and the typographic spaces.
Trimming a line removes them at both ends.
-/

namespace Conch.Text

/-- Whether a character is blank. -/
def isBlank (c : Char) : Bool :=
  let n := c.toNat
  (9 ≤ n && n ≤ 13) || (28 ≤ n && n ≤ 32) || n = 0x85 || n = 0xA0 || n = 0x1680 ||
    (0x2000 ≤ n && n ≤ 0x200A) || n = 0x2028 || n = 0x2029 || n = 0x202F || n = 0x205F ||
    n = 0x3000

/-- Whether a character is blank around a number: a blank other than the information
separators U+001C to U+001F, which a number reader takes for ordinary characters. -/
def isNumberBlank (c : Char) : Bool := isBlank c && !(28 ≤ c.toNat && c.toNat ≤ 31)

/-- A text without the blank characters at its two ends. -/
def trim (s : String) : String :=
  String.ofList ((s.toList.dropWhile isBlank).reverse.dropWhile isBlank).reverse

/-- Whether a text holds blank characters only. -/
def isBlankText (s : String) : Bool := s.toList.all isBlank

example : trim " 　 a b\x1c " = "a b" := by decide +kernel

end Conch.Text
