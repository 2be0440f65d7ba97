/-
Numbers read from text.

A number may be written in the digits of any script, each set of which is ten code points
in a row from its zero on.  Digits may be set apart by single underscores, and blanks
around the number do not count.  The blanks are those of Unicode, but of the control
characters only the five from the tabulator to the carriage return.

An integer is a sign and digits.  A real number is a sign and either digits with a point
and an exponent, both of which may be missing, or one of the words for infinity and for
what is not a number.  It is read as the floating point number nearest to what is written.
-/
import ChipEight.Number.Binary64

namespace ChipEight.Numeral

/-! ### Characters -/

/-- The zeros of the sets of decimal digits, for the fourteenth edition of Unicode. -/
def zeros : List Nat :=
  [0x30, 0x660, 0x6F0, 0x7C0, 0x966, 0x9E6, 0xA66, 0xAE6, 0xB66, 0xBE6, 0xC66, 0xCE6, 0xD66,
   0xDE6, 0xE50, 0xED0, 0xF20, 0x1040, 0x1090, 0x17E0, 0x1810, 0x1946, 0x19D0, 0x1A80, 0x1A90,
   0x1B50, 0x1BB0, 0x1C40, 0x1C50, 0xA620, 0xA8D0, 0xA900, 0xA9D0, 0xA9F0, 0xAA50, 0xABF0,
   0xFF10, 0x104A0, 0x10D30, 0x11066, 0x110F0, 0x11136, 0x111D0, 0x112F0, 0x11450, 0x114D0,
   0x11650, 0x116C0, 0x11730, 0x118E0, 0x11950, 0x11C50, 0x11D50, 0x11DA0, 0x16A60, 0x16AC0,
   0x16B50, 0x1D7CE, 0x1D7D8, 0x1D7E2, 0x1D7EC, 0x1D7F6, 0x1E140, 0x1E2F0, 0x1E950, 0x1FBF0]

/-- The value of a decimal digit. -/
def digit? (c : Char) : Option Nat :=
  (zeros.find? fun first => first ≤ c.toNat && c.toNat < first + 10).map (c.toNat - ·)

/-- Whether a character is a blank. -/
def isBlank (c : Char) : Bool :=
  let n := c.toNat
  (9 ≤ n && n ≤ 13) || n = 32 || n = 0x85 || n = 0xA0 || n = 0x1680 ||
    (0x2000 ≤ n && n ≤ 0x200A) || n = 0x2028 || n = 0x2029 || n = 0x202F || n = 0x205F ||
    n = 0x3000

/-- A text without the blanks around it. -/
def trim (text : List Char) : List Char :=
  ((text.dropWhile isBlank).reverse.dropWhile isBlank).reverse

/-- A sign in front, true for a minus, and what is behind it. -/
def splitSign : List Char → Bool × List Char
  | '-' :: rest => (true, rest)
  | '+' :: rest => (false, rest)
  | text => (false, text)

/-- A text without underscores, each of which must stand between two digits.  The first
argument says whether a digit stands in front of the text. -/
def dropUnderscores (behindDigit : Bool) : List Char → Option (List Char)
  | [] => some []
  | '_' :: c :: rest =>
    if behindDigit && (digit? c).isSome then (dropUnderscores true rest).map (c :: ·) else none
  | c :: rest =>
    if c = '_' then none else (dropUnderscores (digit? c).isSome rest).map (c :: ·)

/-- The digits a text begins with, and what is behind them. -/
def spanDigits : List Char → List Nat × List Char
  | [] => ([], [])
  | c :: rest =>
    match digit? c with
    | none => ([], c :: rest)
    | some d =>
      let (digits, rest) := spanDigits rest
      (d :: digits, rest)

/-- The number that decimal digits make. -/
def value (digits : List Nat) : Nat := digits.foldl (fun n d => n * 10 + d) 0

/-! ### Integers -/

/-- The most digits an integer may have. -/
def maxDigits : Nat := 4300

def readInt? (text : String) : Option Int := do
  let (negative, rest) := splitSign (trim text.toList)
  let (digits, rest) := spanDigits (← dropUnderscores false rest)
  if digits.isEmpty || !rest.isEmpty || maxDigits < digits.length then
    none
  else
    let n : Int := value digits
    return if negative then -n else n

/-! ### Real numbers -/

/-- The number nearest to `n` times a power of ten. -/
def scaled (negative : Bool) (n : Nat) (exponent : Int) : Binary64 :=
  let places : Int := (Nat.toDigits 10 n).length
  if n = 0 ∨ places + exponent < -400 then .zeroOf negative
  else if 400 < places + exponent then .infinityOf negative
  else .ofQuotient negative (n * Nat.pow 10 exponent.toNat) (Nat.pow 10 (-exponent).toNat)

/-- An exponent with its mark, or nothing. -/
def readExponent? : List Char → Option Int
  | [] => some 0
  | mark :: rest =>
    if mark = 'e' ∨ mark = 'E' then
      let (negative, rest) := splitSign rest
      let (digits, rest) := spanDigits rest
      if digits.isEmpty || !rest.isEmpty then none
      else
        let n : Int := value digits
        some (if negative then -n else n)
    else none

/-- Digits with a point and an exponent. -/
def readDecimal? (negative : Bool) (text : List Char) : Option Binary64 := do
  let (whole, rest) := spanDigits text
  let (fraction, rest) := match rest with
    | '.' :: rest => spanDigits rest
    | rest => ([], rest)
  if whole.isEmpty && fraction.isEmpty then
    none
  else
    let exponent ← readExponent? rest
    return scaled negative (value (whole ++ fraction)) (exponent - fraction.length)

/-- The words that stand for numbers without digits. -/
def readWord? (negative : Bool) (text : List Char) : Option Binary64 :=
  match String.ofList (text.map Char.toLower) with
  | "inf" => some (.infinityOf negative)
  | "infinity" => some (.infinityOf negative)
  | "nan" => some (.quietNaN negative)
  | _ => none

def readReal? (text : String) : Option Binary64 := do
  let (negative, rest) := splitSign (← dropUnderscores false (trim text.toList))
  readWord? negative rest <|> readDecimal? negative rest

end ChipEight.Numeral
