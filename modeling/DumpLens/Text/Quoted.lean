import DumpLens.Text.Basic
import DumpLens.Text.Printable

/-! Quoted texts: a text between quotes, with escapes for all that cannot be
shown as it is. -/

namespace DumpLens.Quoted

/-- A number in base sixteen with at least the given count of digits. -/
def hex (width number : Nat) : Text :=
  (Nat.toDigits 16 number).leftpad width '0'

def codeEscape (character : Char) : Text :=
  let code := character.toNat
  if code < 0x100 then '\\' :: 'x' :: hex 2 code
  else if code < 0x10000 then '\\' :: 'u' :: hex 4 code
  else '\\' :: 'U' :: hex 8 code

/-- A character inside quotes of the given kind. -/
def quoteChar (mark : Char) (character : Char) : Text :=
  if character = mark ∨ character = '\\' then ['\\', character]
  else if character = '\n' then ['\\', 'n']
  else if character = '\r' then ['\\', 'r']
  else if character = '\t' then ['\\', 't']
  else if isPrintable character then [character]
  else codeEscape character

/-- Double quotes serve where they save escapes, single quotes elsewhere. -/
def markFor (text : Text) : Char :=
  if text.contains '\'' && !text.contains '"' then '"' else '\''

def quote (text : Text) : Text :=
  let mark := markFor text
  mark :: text.flatMap (quoteChar mark) ++ [mark]

example : quote "it's \\ \x07\u0085".toList = "\"it's \\\\ \\x07\\x85\"".toList := by decide +kernel

end DumpLens.Quoted
