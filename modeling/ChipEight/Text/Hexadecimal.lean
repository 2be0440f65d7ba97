/-
Numbers as hexadecimal text.

Every address, operand and register the machine shows is written in upper case
hexadecimal, padded on the left to a field width.  A field never cuts a number: a
value that needs more room than its field takes it.  Two paddings are in use.

  * Messages fill with zeros, `0200`.  The minus sign of a negative number stands
    in front of the zeros and takes one place of the width, `-001`.
  * The register dump fills with blanks, ` 200`, and there the minus sign belongs
    to the digits, `  -1`.
-/

namespace ChipEight.Text.Hex

/-- The digits of a number, the most significant first; zero is the one digit `0`. -/
def digits (n : Nat) : List Char :=
  (Nat.toDigits 16 n).map Char.toUpper

/-- The digits behind a minus sign where one is needed. -/
def signed (n : Int) : List Char :=
  if n < 0 then '-' :: digits n.natAbs else digits n.natAbs

/-- A field filled with zeros between the sign and the digits. -/
def zeroPadded (width : Nat) (n : Int) : List Char :=
  if n < 0 then '-' :: (digits n.natAbs).leftpad (width - 1) '0'
  else (digits n.natAbs).leftpad width '0'

/-- A field filled with blanks in front of the sign. -/
def blankPadded (width : Nat) (n : Int) : List Char :=
  (signed n).leftpad width ' '

end ChipEight.Text.Hex
