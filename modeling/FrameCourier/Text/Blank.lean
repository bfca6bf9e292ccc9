/-!
# Blank characters

Lines of a label file and relaxed times are trimmed of every character that Unicode calls
white space, not of the ASCII ones only.
-/

namespace FrameCourier.Text

/-- Whether a character is white space. -/
def isBlank (c : Char) : Bool :=
  let n := c.toNat
  (0x09 ≤ n && n ≤ 0x0D) || n == 0x20 || n == 0x85 || n == 0xA0 || n == 0x1680 ||
    (0x2000 ≤ n && n ≤ 0x200A) || n == 0x2028 || n == 0x2029 || n == 0x202F ||
    n == 0x205F || n == 0x3000

/-- The characters without the blank ones before them. -/
def trimStart (cs : List Char) : List Char := cs.dropWhile isBlank

/-- The characters without the blank ones before and after them. -/
def trim (cs : List Char) : List Char := (trimStart (trimStart cs).reverse).reverse

end FrameCourier.Text
