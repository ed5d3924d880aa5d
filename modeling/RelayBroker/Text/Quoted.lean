/-
  RelayBroker.Text.Quoted

  Quoted texts and characters, as error messages show what a participant sent:
  the quote in use and the backslash are escaped, the usual controls have short
  escapes, and every other hidden character is shown by its code.
-/

import RelayBroker.Text.Hidden

namespace RelayBroker.Text

/-- The digits of a number in base 16, in lower case. -/
def hexDigits (n : Nat) : List Char :=
  Nat.toDigits 16 n

/-- One character between quotes of the kind `quote`. -/
def escapeChar (quote c : Char) : List Char :=
  if c = quote then ['\\', quote]
  else match c with
    | '\\' => ['\\', '\\']
    | '\x00' => ['\\', '0']
    | '\t' => ['\\', 't']
    | '\n' => ['\\', 'n']
    | '\r' => ['\\', 'r']
    | _ => if isHidden c then ['\\', 'u', '{'] ++ hexDigits c.toNat ++ ['}'] else [c]

/-- A text between double quotes. -/
def quoted (s : String) : String :=
  String.ofList ('"' :: s.toList.flatMap (escapeChar '"') ++ ['"'])

/-- A character between single quotes. -/
def quotedChar (c : Char) : String :=
  String.ofList ('\'' :: escapeChar '\'' c ++ ['\''])

end RelayBroker.Text
