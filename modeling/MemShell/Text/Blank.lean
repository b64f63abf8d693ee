import MemShell.Text.Runs

/-!
# Blanks, words and trimming

The blanks are the characters with the property `White_Space`: twenty-five in all, of which
core's `Char.isWhitespace` knows four. A word of a line is a run between blanks.
-/

namespace MemShell.Text

/-- The character has the property `White_Space`. -/
def isBlank (c : Char) : Bool :=
  let n := c.toNat
  (0x09 ≤ n && n ≤ 0x0D) || n == 0x20 || n == 0x85 || n == 0xA0 || n == 0x1680 ||
    (0x2000 ≤ n && n ≤ 0x200A) || n == 0x2028 || n == 0x2029 || n == 0x202F || n == 0x205F ||
    n == 0x3000

/-- The words of a line, in order. -/
def words (line : String) : List String :=
  (runs isBlank line.toList).map String.ofList

/-- The text without the blanks it ends in. -/
def trimEnd (text : String) : String :=
  String.ofList (dropTrailing isBlank text.toList)

/-- The text without the blanks it starts and ends in. -/
def trim (text : String) : String :=
  String.ofList (dropTrailing isBlank (text.toList.dropWhile isBlank))

end MemShell.Text
