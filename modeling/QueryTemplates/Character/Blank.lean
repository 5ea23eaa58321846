/-! # Blank characters

The characters that count as white space when a text is trimmed: the ASCII controls from tab to
carriage return, the four information separators, and the Unicode spaces and separators.
-/

namespace QueryTemplates.Character

/-- The character is white space. -/
def isBlank (c : Char) : Bool :=
  let code := c.toNat
  (0x09 ≤ code && code ≤ 0x0D) || (0x1C ≤ code && code ≤ 0x20) || code == 0x85 || code == 0xA0 ||
    code == 0x1680 || (0x2000 ≤ code && code ≤ 0x200A) || code == 0x2028 || code == 0x2029 ||
    code == 0x202F || code == 0x205F || code == 0x3000

end QueryTemplates.Character
