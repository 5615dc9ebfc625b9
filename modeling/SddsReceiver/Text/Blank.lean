/-!
# Blank characters

The characters that separate words: the white space of Unicode. It holds the line and page
breaks of ASCII, the no-break and typographic spaces and the line and paragraph separators,
and leaves out the zero-width characters.
-/
namespace SddsReceiver.Text

def isBlank (c : Char) : Bool :=
  let n := c.toNat
  (0x09 ≤ n && n ≤ 0x0d) || n == 0x20 || n == 0x85 || n == 0xa0 || n == 0x1680 ||
    (0x2000 ≤ n && n ≤ 0x200a) || n == 0x2028 || n == 0x2029 || n == 0x202f ||
    n == 0x205f || n == 0x3000

/-- A text without the blanks at both ends. -/
def trimBlanks (text : List Char) : List Char :=
  ((text.dropWhile isBlank).reverse.dropWhile isBlank).reverse

/-- A string without the blanks at both ends. -/
def trim (text : String) : String :=
  String.ofList (trimBlanks text.toList)

end SddsReceiver.Text
