/-!
# White space at the ends of a text

White space is the Unicode property of that name.  `trim` removes it at both ends of a text, and a
text is blank if nothing else is in it.
-/

namespace TaskDispatch.Text

/-- The code points with the property White_Space. -/
def whiteSpaceRanges : List (Nat × Nat) :=
  [ (0x9, 0xd), (0x20, 0x20), (0x85, 0x85), (0xa0, 0xa0), (0x1680, 0x1680), (0x2000, 0x200a),
    (0x2028, 0x2029), (0x202f, 0x202f), (0x205f, 0x205f), (0x3000, 0x3000) ]

/-- True for white space. -/
def isBlank (character : Char) : Bool :=
  whiteSpaceRanges.any fun range =>
    decide (range.1 ≤ character.toNat) && decide (character.toNat ≤ range.2)

/-- White space of ASCII is white space. -/
theorem isBlank_of_isWhitespace (character : Char) (space : character.isWhitespace = true) :
    isBlank character = true := by
  simp only [Char.isWhitespace, Bool.or_eq_true, decide_eq_true_eq] at space
  rcases space with ((rfl | rfl) | rfl) | rfl <;> decide

/-- Removes white space at both ends. -/
def trimCharacters (characters : List Char) : List Char :=
  ((characters.dropWhile isBlank).reverse.dropWhile isBlank).reverse

/-- Removes white space at both ends of a text. -/
def trim (text : String) : String := String.ofList (trimCharacters text.toList)

/-- True if a text holds nothing but white space. -/
def isBlankText (text : String) : Bool := text.toList.all isBlank

/-- Lower-cases the letters from A to Z and leaves everything else alone. -/
def lowerCharacters (characters : List Char) : List Char := characters.map Char.toLower

/-- Lower-cases the letters from A to Z of a text. -/
def lower (text : String) : String := String.ofList (lowerCharacters text.toList)

end TaskDispatch.Text
