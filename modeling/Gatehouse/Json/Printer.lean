import Gatehouse.Json.Basic

/-! The compact text of a JSON value: its tokens without blanks. In strings a quote, a
backslash and the control characters below the space are escaped, five of them by a letter
and the others by their code; every other character stands for itself. -/
namespace Gatehouse.Json

/-- Four lower-case hexadecimal digits. -/
def fourHexDigits (n : Nat) : List Char :=
  let digits := Nat.toDigits 16 n
  List.replicate (4 - digits.length) '0' ++ digits

def escapeChar (c : Char) : List Char :=
  if c = '"' then ['\\', '"']
  else if c = '\\' then ['\\', '\\']
  else if c = '\x08' then ['\\', 'b']
  else if c = '\x0c' then ['\\', 'f']
  else if c = '\n' then ['\\', 'n']
  else if c = '\r' then ['\\', 'r']
  else if c = '\t' then ['\\', 't']
  else if c < ' ' then '\\' :: 'u' :: fourHexDigits c.toNat
  else [c]

def stringLiteral (text : String) : List Char :=
  '"' :: text.toList.flatMap escapeChar ++ ['"']

/-- Decimal digits with a minus sign if the number is negative. -/
def integerLiteral (n : Int) : List Char :=
  if n < 0 then '-' :: Nat.toDigits 10 n.natAbs else Nat.toDigits 10 n.natAbs

def numberLiteral : Numeral → List Char
  | .integer n => integerLiteral n
  | .real negative digits power =>
    (if negative then ['-'] else []) ++ Nat.toDigits 10 digits ++ 'e' :: integerLiteral power

def Token.literal : Token String → List Char
  | .openBracket => ['[']
  | .closeBracket => [']']
  | .openBrace => ['\x7b']
  | .closeBrace => ['\x7d']
  | .comma => [',']
  | .colon => [':']
  | .null => ['n', 'u', 'l', 'l']
  | .bool true => ['t', 'r', 'u', 'e']
  | .bool false => ['f', 'a', 'l', 's', 'e']
  | .number n => numberLiteral n
  | .string s => stringLiteral s

/-- The compact text of a value. -/
def render (value : Json String) : String :=
  String.ofList (value.tokens.flatMap Token.literal)

end Gatehouse.Json
