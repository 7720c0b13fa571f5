import PushRelay.Text.Classes

/-!
# Quoted text

`quoted` writes a text between double quotes on one line.  A quote and a backslash are escaped by
a backslash, tab, line feed, carriage return and NUL by a letter or digit, and every character that
has no visible form of its own by its code point in lower-case hexadecimal.
-/

namespace PushRelay.Text

/-- Lower-case hexadecimal digits, at least one. -/
def hexDigits (n : Nat) : List Char := Nat.toDigits 16 n

/-- Two lower-case hexadecimal digits. -/
def hexByte (b : UInt8) : List Char := [Nat.digitChar (b.toNat / 16), Nat.digitChar (b.toNat % 16)]

/-- One character of a quoted text. -/
def quotedChar (c : Char) : List Char :=
  if c = '"' then ['\\', '"']
  else if c = '\\' then ['\\', '\\']
  else if c = '\n' then ['\\', 'n']
  else if c = '\r' then ['\\', 'r']
  else if c = '\t' then ['\\', 't']
  else if c.toNat = 0 then ['\\', '0']
  else if isExtending c || isUnprintable c then
    ['\\', 'u', '\x7b'] ++ hexDigits c.toNat ++ ['\x7d']
  else [c]

def quoted (s : String) : String :=
  String.ofList ('"' :: s.toList.flatMap quotedChar ++ ['"'])

/-- Quoted texts between square brackets, separated by a comma and a space. -/
def quotedList (xs : List String) : String :=
  "[" ++ ", ".intercalate (xs.map quoted) ++ "]"

end PushRelay.Text
