/-
The arguments of a command line, told apart.

An argument that begins with a dash is a switch if it is a name of one, or the only name
with that start, or a short name with more text joined to it.  Text may also stand behind
an equals sign, and behind a short name it is all the same whether that sign is there.  Of
the others with a dash, a negative number and whatever holds a blank are plain, as is the
dash alone; the rest are unknown.  All arguments behind a double dash are plain.
-/
import ChipEight.CommandLine.Switch
import ChipEight.Numeral

namespace ChipEight

/-- An argument as what it is. -/
inductive Token where
  | plain (text : String)
  /-- The double dash. -/
  | separator
  /-- A switch by a long or a short name, with the text joined to it. -/
  | switch (s : Switch) (long : Bool) (joined : Option (List Char))
  /-- Looks like a switch, but is none. -/
  | unknown (text : String)
  deriving DecidableEq, Repr

namespace Token

/-- A text up to its first equals sign, and what is behind that. -/
def splitEquals (text : List Char) : List Char × Option (List Char) :=
  match text.dropWhile (· ≠ '=') with
  | [] => (text, none)
  | _ :: value => (text.takeWhile (· ≠ '='), some value)

/-- Whether a text is a minus sign and decimal digits, among them perhaps a point that has
digits behind it.  A line end behind the number does not count. -/
def isNegativeNumber (text : List Char) : Bool :=
  let text := if text.getLast? = some '\n' then text.dropLast else text
  match text with
  | '-' :: rest =>
    match Numeral.spanDigits rest with
    | (digits, []) => !digits.isEmpty
    | (_, '.' :: rest) =>
      let (digits, rest) := Numeral.spanDigits rest
      !digits.isEmpty && rest.isEmpty
    | _ => false
  | _ => false

/-- Whether a name is a long one. -/
def isLong (name : String) : Bool := name.startsWith "--"

/-- The readings of an argument as a switch of which not the whole name is given. -/
def readings (argument : String) : List (String × Token) :=
  let text := argument.toList
  if isLong argument then
    let (start, value) := splitEquals text
    (Switch.withStart (String.ofList start)).map fun (name, s) => (name, switch s true value)
  else
    let name := String.ofList (text.take 2)
    match Switch.ofName? name with
    | none => []
    | some s => [(name, switch s false (some (text.drop 2)))]

/-- The reading of an argument as a whole name of a switch, alone or in front of an equals
sign. -/
def named? (argument : String) : Option Token :=
  match Switch.ofName? argument with
  | some s => some (switch s (isLong argument) none)
  | none =>
    match splitEquals argument.toList with
    | (_, none) => none
    | (name, some value) =>
      let name := String.ofList name
      (Switch.ofName? name).map fun s => switch s (isLong name) (some value)

/-- What an argument other than the double dash is. -/
def ofArgument (argument : String) : Except UsageError Token :=
  if !argument.startsWith "-" ∨ argument = "-" then .ok (plain argument)
  else
    match named? argument with
    | some token => .ok token
    | none =>
      match readings argument with
      | [(_, token)] => .ok token
      | [] =>
        if isNegativeNumber argument.toList || argument.contains ' ' then .ok (plain argument)
        else .ok (unknown argument)
      | several => .error (.ambiguous argument (several.map Prod.fst))

/-- What the arguments of a command line are. -/
def ofArguments : List String → Except UsageError (List Token)
  | [] => .ok []
  | argument :: rest =>
    if argument = "--" then .ok (separator :: rest.map plain)
    else do
      let token ← ofArgument argument
      let tokens ← ofArguments rest
      return token :: tokens

end Token

end ChipEight
