import AcceleratorTopology.Text.Numeral
import AcceleratorTopology.Text.Unprintable

/-!
# Quoted text

A text between double quotes in which every character can be told by sight: quotes, backslashes,
line ends, tabs and NULs have short escapes, other unprintable characters are written as their
code point.
-/

namespace AcceleratorTopology.Text

/-- The written form of one character between double quotes. -/
def quoteChar (c : Char) : List Char :=
  if c = '\x00' then ['\\', '0']
  else if c = '\t' then ['\\', 't']
  else if c = '\r' then ['\\', 'r']
  else if c = '\n' then ['\\', 'n']
  else if c = '"' then ['\\', '"']
  else if c = '\\' then ['\\', '\\']
  else if isUnprintable c then ['\\', 'u', '\x7b'] ++ hexDigits c.toNat ++ ['\x7d']
  else [c]

/-- A text between double quotes, with escapes. -/
def quoted (s : String) : String :=
  String.ofList (['"'] ++ s.toList.flatMap quoteChar ++ ['"'])

end AcceleratorTopology.Text
