import Condense.Text.Basic

/-!
# Blank characters

Two notions of blank space: white space in the sense of the character database, and the wider
notion by which a text is trimmed, which counts the four information separators too.
-/

namespace Condense.Text

/-- White space: the ASCII controls from tab to carriage return, the space, and the wider spaces. -/
def isSpace (c : Char) : Bool :=
  let n := c.toNat
  (0x09 ≤ n && n ≤ 0x0D) || n == 0x20 || n == 0x85 || n == 0xA0 || n == 0x1680 ||
    (0x2000 ≤ n && n ≤ 0x200A) || n == 0x2028 || n == 0x2029 || n == 0x202F || n == 0x205F ||
    n == 0x3000

/-- White space or one of the information separators. -/
def isBlank (c : Char) : Bool :=
  isSpace c || (0x1C ≤ c.toNat && c.toNat ≤ 0x1F)

/-- Drops the characters of a class from both ends. -/
def trimWith (p : Char → Bool) (t : Text) : Text :=
  ((t.dropWhile (·.is p)).reverse.dropWhile (·.is p)).reverse

/-- The text without blanks at its ends. -/
def trim (t : Text) : Text := trimWith isBlank t

end Condense.Text
