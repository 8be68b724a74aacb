import Metering.Text.Casing
import Metering.Text.PrintData

/-!
Quoted text, as diagnostic descriptions show a name: between double quotes, with a
backslash escape for every character that would be invisible, ambiguous, or would end the
quotation. A code point without an escape letter of its own is written in hexadecimal.
-/

namespace Metering.Text

/-- A character that a reader can see, standing alone. -/
def isVisible (c : Char) : Bool :=
  !inRanges extenderRanges c && !inRanges unprintableRanges c

/-- The hexadecimal escape of a code point. -/
def codePointEscape (c : Char) : List Char :=
  "\\u\x7b".toList ++ Nat.toDigits 16 c.toNat ++ ['\x7d']

/-- How one character is written between the quotes. -/
def quoteChar (c : Char) : List Char :=
  if c = '"' then ['\\', '"']
  else if c = '\\' then ['\\', '\\']
  else if c = '\n' then ['\\', 'n']
  else if c = '\r' then ['\\', 'r']
  else if c = '\t' then ['\\', 't']
  else if c = '\x00' then ['\\', '0']
  else if (0x20 ≤ c.toNat && c.toNat ≤ 0x7E) || isVisible c then [c]
  else codePointEscape c

/-- The text between quotes. -/
def quote (s : String) : String :=
  String.ofList ('"' :: s.toList.flatMap quoteChar ++ ['"'])

example : quote "a\"b\n" = "\"a\\\"b\\n\"" := by decide +kernel

end Metering.Text
