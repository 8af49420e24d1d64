/-!
# Blank characters and trimming

A line is trimmed before it is read.  The characters that count as blank are
those with the Unicode property `White_Space`; the byte order mark and the
zero-width space do not have it and are kept.
-/

namespace BrowserRelay.Text

/-- The characters with the Unicode property `White_Space`. -/
def isBlank (character : Char) : Bool :=
  let code := character.toNat
  (0x09 ≤ code && code ≤ 0x0D) || code == 0x20 || code == 0x85 || code == 0xA0 ||
    code == 0x1680 || (0x2000 ≤ code && code ≤ 0x200A) || code == 0x2028 ||
    code == 0x2029 || code == 0x202F || code == 0x205F || code == 0x3000

/-- Drop the blank characters at both ends of a list of characters. -/
def trimBlanks (characters : List Char) : List Char :=
  ((characters.dropWhile isBlank).reverse.dropWhile isBlank).reverse

/-- Drop the blank characters at both ends of a text. -/
def trim (text : String) : String :=
  String.ofList (trimBlanks text.toList)

/-- Whether a text holds nothing but blank characters. -/
def isBlankText (text : String) : Bool :=
  text.toList.all isBlank

end BrowserRelay.Text
