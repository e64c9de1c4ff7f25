import Gatehouse.Bytes.Hex
import Gatehouse.Text.Pieces

/-! Universally unique ids: 16 bytes, written as 32 hexadecimal digits. The canonical spelling is
in lower case, in five groups with hyphens between them. -/
namespace Gatehouse.Text

/-- How many digits each group has. -/
def uuidGroups : List Nat := [8, 4, 4, 4, 12]

/-- An id in groups may stand in braces, or behind the name of its scheme. -/
def unwrapUuid (text : List Char) : List Char :=
  match text with
  | '\x7b' :: rest => if rest.getLast? = some '\x7d' then rest.dropLast else text
  | _ => if "urn:uuid:".toList.isPrefixOf text then text.drop 9 else text

/-- The digits of an id, in a row or in groups. -/
def uuidDigits? (text : List Char) : Option (List Char) :=
  if text.length = 32 then some text
  else
    let groups := (unwrapUuid text).splitOnP (· == '-')
    if groups.map List.length = uuidGroups then some groups.flatten else none

/-- The digits in groups of the given sizes. -/
def group : List Nat → List Char → List (List Char)
  | [], _ => []
  | size :: sizes, digits => digits.take size :: group sizes (digits.drop size)

/-- The canonical spelling of an id. -/
def uuid? (text : List Char) : Option (List Char) := do
  let bytes ← Bytes.ofHex? (← uuidDigits? text)
  some (['-'].intercalate (group uuidGroups (Bytes.toHex bytes)))

end Gatehouse.Text
