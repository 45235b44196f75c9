/-!
# Blank Characters

The characters that count as blank space, and trimming.  A text is blank when
trimming leaves nothing of it.
-/

namespace IdentityService.Text

/-! ## §1 The class -/

/-- Tab to carriage return, the four separators U+001C to U+001F, the space, and the
space characters outside ASCII.  The zero-width characters are not blank. -/
def isBlank (c : Char) : Bool :=
  let n := c.toNat
  (9 ≤ n && n ≤ 13) || (28 ≤ n && n ≤ 32) || n == 0x85 || n == 0xA0 || n == 0x1680
    || (0x2000 ≤ n && n ≤ 0x200A) || n == 0x2028 || n == 0x2029 || n == 0x202F
    || n == 0x205F || n == 0x3000

/-- White space as numeric fields trim it: blank, but not one of the four separators. -/
def isWhiteSpace (c : Char) : Bool := isBlank c && !(28 ≤ c.toNat && c.toNat ≤ 31)

/-! ## §2 Trimming -/

/-- Removes the characters with a property from both ends of a list. -/
def trimWhere (p : Char → Bool) (cs : List Char) : List Char :=
  ((cs.dropWhile p).reverse.dropWhile p).reverse

/-- Trims blanks from both ends of a list of characters. -/
def trim (cs : List Char) : List Char := trimWhere isBlank cs

/-- Trims blanks from both ends of a text. -/
def strip (s : String) : String := String.ofList (trim s.toList)

/-- A text is blank when it holds nothing but blanks. -/
def isBlankText (s : String) : Bool := s.toList.all isBlank

end IdentityService.Text
