import Gatehouse.Bytes.Base64Url

/-! The classic base-64 alphabet, in which `+` and `/` stand where the URL-safe one has `-` and
`_`. The last group is filled up with `=` to four characters. -/
namespace Gatehouse.Bytes

/-- The URL-safe character of the same value. The two characters that only the URL-safe alphabet
has are foreign here. -/
def urlSafeChar? (c : Char) : Option Char :=
  if c = '+' then some '-'
  else if c = '/' then some '_'
  else if c = '-' ∨ c = '_' then none
  else some c

/-- Reads whole groups of four characters. Only the last group may be padded, and then its
unused low bits are zero. -/
def ofBase64? (text : List Char) : Option Bytes :=
  let padding := text.dropWhile (· != '=')
  if text.length % 4 = 0 ∧ (padding = [] ∨ padding = ['='] ∨ padding = ['=', '=']) then
    ((text.takeWhile (· != '=')).mapM urlSafeChar?).bind ofBase64Url?
  else none

end Gatehouse.Bytes
