import EventMachine.Text.Decimal
import EventMachine.Text.Printable

/-!
# Quoted text

How a text is shown in messages: between double quotes, with the quote and the backslash escaped,
the usual letters for NUL, tab, carriage return and line feed, and the hexadecimal code point of
every other character that is not printable, that extends the one before it, or that is a filler.
-/

namespace EventMachine.Text

def showChar (c : Char) : List Char :=
  if c = '"' then ['\\', '"']
  else if c = '\\' then ['\\', '\\']
  else if c = '\x00' then ['\\', '0']
  else if c = '\t' then ['\\', 't']
  else if c = '\r' then ['\\', 'r']
  else if c = '\n' then ['\\', 'n']
  else if isPrintable c && !isExtender c && !isFiller c then [c]
  else '\\' :: 'u' :: '{' :: ((Nat.toDigits 16 c.toNat) ++ ['}'])

def quoted (s : String) : String :=
  String.ofList ('"' :: (s.toList.flatMap showChar ++ ['"']))

end EventMachine.Text
