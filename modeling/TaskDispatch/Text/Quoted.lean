import TaskDispatch.Text.Visible

/-!
# Quoted text

The form in which diagnostics show a text or a character: between quotes, with the quote itself,
the backslash and the four short escapes after a backslash, and every other character that cannot
be seen as its code point in braces.
-/

namespace TaskDispatch.Text

/-- The digits of a number in base sixteen, in lower case. -/
def hexDigits (value : Nat) : List Char := Nat.toDigits 16 value

/-- The escape of a character that cannot be seen. -/
def codePointEscape (character : Char) : List Char :=
  ['\\', 'u', '\x7b'] ++ hexDigits character.toNat ++ ['\x7d']

/-- One character between quotes of the given kind. -/
def quoteCharacter (quoteMark character : Char) : List Char :=
  if character = quoteMark ∨ character = '\\' then ['\\', character]
  else if character = '\t' then ['\\', 't']
  else if character = '\r' then ['\\', 'r']
  else if character = '\n' then ['\\', 'n']
  else if character.toNat = 0 then ['\\', '0']
  else if isVisible character then [character]
  else codePointEscape character

/-- The characters of a text between double quotes, without the quotes. -/
def quoteBody (characters : List Char) : List Char :=
  characters.flatMap (quoteCharacter '"')

/-- A text in double quotes. -/
def quoted (text : String) : String :=
  String.ofList ('"' :: quoteBody text.toList ++ ['"'])

/-- A character in single quotes. -/
def quotedCharacter (character : Char) : String :=
  String.ofList ('\'' :: quoteCharacter '\'' character ++ ['\''])

theorem quoteBody_append (left right : List Char) :
    quoteBody (left ++ right) = quoteBody left ++ quoteBody right := by
  simp [quoteBody]

end TaskDispatch.Text
