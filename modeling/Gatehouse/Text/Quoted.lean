import Gatehouse.Text.Hidden

/-! The quoted form of a text in diagnostics: double quotes around it, a backslash before a
quote or a backslash, short names for the common controls, and the code point in braces for
every other character that would not be drawn. -/
namespace Gatehouse.Text

/-- The lower-case hexadecimal digits of a number, without leading zeros. -/
def hexDigits (n : Nat) : List Char :=
  Nat.toDigits 16 n

/-- How one character stands inside quotes. -/
def quoteChar (c : Char) : List Char :=
  if c = '\x00' then ['\\', '0']
  else if c = '\t' then ['\\', 't']
  else if c = '\n' then ['\\', 'n']
  else if c = '\r' then ['\\', 'r']
  else if c = '"' then ['\\', '"']
  else if c = '\\' then ['\\', '\\']
  else if isHidden c then ['\\', 'u', '\x7b'] ++ hexDigits c.toNat ++ ['\x7d']
  else [c]

/-- The quoted form of a text. -/
def quoted (text : String) : String :=
  String.ofList ('"' :: text.toList.flatMap quoteChar ++ ['"'])

/-- The quoted form in which single quotes are marked as well. -/
def quotedFully (text : String) : String :=
  let quote := fun (c : Char) => if c = '\'' then ['\\', '\''] else quoteChar c
  String.ofList ('"' :: text.toList.flatMap quote ++ ['"'])

end Gatehouse.Text
