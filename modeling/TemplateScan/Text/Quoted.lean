import TemplateScan.Text.Unprintable

/-!
# Quoted text

Two quoted forms.  A *listed* text is the one of token listings: it stands on one line, and controls
are written as `\u` and two upper-case hexadecimal digits in braces.  A *shown* text is the one of
log messages: all characters without a glyph of their own are written by number, in lower case and
without leading zeros.
-/

namespace TemplateScan.Text

/-! ## Listings -/

/-- How a character is written in a listing. -/
def listedChar (c : Char) : List Char :=
  if c = '\\' then ['\\', '\\']
  else if c = '"' then ['\\', '"']
  else if c = '\n' then ['\\', 'n']
  else if c = '\r' then ['\\', 'r']
  else if c = '\t' then ['\\', 't']
  else if c < ' ' || c = '\x7F' then
    ['\\', 'u', '\x7B', (Nat.digitChar (c.toNat / 16)).toUpper,
      (Nat.digitChar (c.toNat % 16)).toUpper, '\x7D']
  else [c]

/-- A text in quotes as listings have it. -/
def listed (cs : List Char) : List Char :=
  '"' :: cs.flatMap listedChar ++ ['"']

/-! ## Messages -/

/-- A character by its number in hexadecimal. -/
def numberedChar (c : Char) : List Char :=
  ['\\', 'u', '\x7B'] ++ Nat.toDigits 16 c.toNat ++ ['\x7D']

/-- How a character is written in a message. -/
def shownChar (c : Char) : List Char :=
  if c = '\x00' then ['\\', '0']
  else if c = '\t' then ['\\', 't']
  else if c = '\r' then ['\\', 'r']
  else if c = '\n' then ['\\', 'n']
  else if c = '"' then ['\\', '"']
  else if c = '\\' then ['\\', '\\']
  else if isUnprintable c then numberedChar c
  else [c]

/-- A text in quotes as messages have it. -/
def shown (text : String) : String :=
  String.ofList ('"' :: text.toList.flatMap shownChar ++ ['"'])

end TemplateScan.Text
