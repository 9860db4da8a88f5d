import StructForge.Text.Hexadecimal
import StructForge.Text.PrintableTable

/-! # Quoted text

A text in quotes, with an escape for each character that would not be read as itself. Single quotes
are used unless the text holds a single quote and no double quote. -/

namespace StructForge.Text

/-- Whether quoted text shows the character as itself, quotes and the backslash apart. -/
def isPrintable (c : Char) : Bool := !unprintable.has c.toNat

/-- How one character is written between quotes of the given kind. -/
def quoteChar (quote c : Char) : List Char :=
  if c = quote ∨ c = '\\' then ['\\', c]
  else if c = '\n' then ['\\', 'n']
  else if c = '\r' then ['\\', 'r']
  else if c = '\t' then ['\\', 't']
  else if isPrintable c then [c]
  else if c.toNat < 0x100 then '\\' :: 'x' :: hexDigits 2 c.toNat
  else if c.toNat < 0x10000 then '\\' :: 'u' :: hexDigits 4 c.toNat
  else '\\' :: 'U' :: hexDigits 8 c.toNat

def chooseQuote (cs : List Char) : Char :=
  if cs.contains '\x27' && !cs.contains '\x22' then '\x22' else '\x27'

def quoted (s : String) : String :=
  let cs := s.toList
  let quote := chooseQuote cs
  String.ofList (quote :: (cs.flatMap (quoteChar quote) ++ [quote]))

end StructForge.Text
