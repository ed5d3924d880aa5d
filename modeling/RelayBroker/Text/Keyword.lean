/-
  RelayBroker.Text.Keyword

  Keywords are recognised whatever their letter case and whatever blanks
  surround them. All keywords of the broker consist of ASCII letters, so the
  comparison needs only the letters whose lower (or upper) case is ASCII.
-/

import RelayBroker.Text.Blank

namespace RelayBroker.Text

/-- Lower case, as far as it can yield an ASCII letter: besides the ASCII
capitals only the Kelvin sign has a lower case in ASCII. -/
def lowerChar (c : Char) : Char :=
  if c = '\u212A' then 'k' else c.toLower

/-- Upper case, as far as a single ASCII letter can come of it: besides the ASCII
small letters these are the dotless i and the long s. -/
def upperChar (c : Char) : Char :=
  if c = '\u0131' then 'I' else if c = '\u017F' then 'S' else c.toUpper

/-- A text with its letters in lower case, for comparison with a keyword. -/
def lower (s : String) : String :=
  String.ofList (s.toList.map lowerChar)

/-- A text with its letters in upper case, for comparison with a keyword. -/
def upper (s : String) : String :=
  String.ofList (s.toList.map upperChar)

/-- The form in which a word sent by a participant is compared with a keyword. -/
def keyword (s : String) : String :=
  lower (trim s)

end RelayBroker.Text
