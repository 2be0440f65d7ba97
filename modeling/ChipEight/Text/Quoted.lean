/-
Text in quotes.

A text is shown between two quotes in such a way that each text has one form and that
every character of the form can be seen.  The quote is the single one, unless the text
holds a single and no double one.  A backslash and the quote itself get a backslash in
front; a character that cannot be seen is written by its number, in two, four or eight
hexadecimal digits.
-/
import ChipEight.Text.Printable

namespace ChipEight.Text.Quoted

/-- A number in lower case hexadecimal, filled with zeros. -/
def escape (letter : Char) (width : Nat) (code : Nat) : List Char :=
  '\\' :: letter :: (Nat.toDigits 16 code).leftpad width '0'

/-- The form of one character between quotes. -/
def character (quote c : Char) : List Char :=
  if c = quote ∨ c = '\\' then ['\\', c]
  else if c = '\t' then ['\\', 't']
  else if c = '\n' then ['\\', 'n']
  else if c = '\r' then ['\\', 'r']
  else if isPrintable c then [c]
  else if c.toNat < 0x100 then escape 'x' 2 c.toNat
  else if c.toNat < 0x10000 then escape 'u' 4 c.toNat
  else escape 'U' 8 c.toNat

/-- The quote a text is put between. -/
def quoteOf (text : List Char) : Char :=
  if text.contains '\'' && !text.contains '"' then '"' else '\''

/-- The form of a text. -/
def quoteChars (text : List Char) : List Char :=
  let quote := quoteOf text
  quote :: text.flatMap (character quote) ++ [quote]

def quote (text : String) : String := String.ofList (quoteChars text.toList)

end ChipEight.Text.Quoted
