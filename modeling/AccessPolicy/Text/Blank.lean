/-! Blank characters and the text between them. -/

namespace AccessPolicy.Text

/-- White space, separators and the separator controls of ASCII. -/
def isBlank (c : Char) : Bool :=
  -- The four information separators U+001C to U+001F count as blank, zero-width spaces do not.
  let code := c.toNat
  (0x09 ≤ code && code ≤ 0x0D) || (0x1C ≤ code && code ≤ 0x20) || code == 0x85 || code == 0xA0
    || code == 0x1680 || (0x2000 ≤ code && code ≤ 0x200A) || code == 0x2028 || code == 0x2029
    || code == 0x202F || code == 0x205F || code == 0x3000

/-- White space and separators. -/
def isWhite (c : Char) : Bool :=
  -- The information separators are blank, but they are not white space.
  isBlank c && !(0x1C ≤ c.toNat && c.toNat ≤ 0x1F)

/-- The characters that remain when a class of characters is removed from the end. -/
def dropLastWhile (drop : Char → Bool) (chars : List Char) : List Char :=
  -- The end of a list is the start of its reverse.
  (chars.reverse.dropWhile drop).reverse

/-- The characters between those of a class at both ends. -/
def trimOf (drop : Char → Bool) (chars : List Char) : List Char :=
  -- Characters of the class inside the text stay.
  dropLastWhile drop (chars.dropWhile drop)

/-- The characters between the blanks at both ends. -/
def trim (chars : List Char) : List Char :=
  -- Blanks inside the text stay.
  trimOf isBlank chars

end AccessPolicy.Text
