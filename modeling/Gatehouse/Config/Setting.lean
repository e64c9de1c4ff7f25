import Gatehouse.Text.Ascii

/-! Names of session settings: two identifiers with a dot between. An identifier is a letter
or an underscore, followed by letters, digits and underscores, all of them ASCII. -/
namespace Gatehouse.Setting

def isIdentifierChar (c : Char) : Bool :=
  Text.isLetter c || Text.isDigit c || c == '_'

def isIdentifier (text : List Char) : Bool :=
  match text with
  | [] => false
  | c :: _ => text.all isIdentifierChar && !Text.isDigit c

def isValidName (name : List Char) : Bool :=
  match name.splitOnP (· == '.') with
  | [qualifier, rest] => isIdentifier qualifier && isIdentifier rest
  | _ => false

end Gatehouse.Setting
