import Gatehouse.Text.Ascii
import Gatehouse.Text.Pieces

/-! Request targets: a path, an absolute address, an authority alone or an asterisk. -/
namespace Gatehouse.Http

structure Target where
  /-- The part of an address that names the server, if the target has one. -/
  authority : Option (List Char)
  path : List Char
  deriving DecidableEq, Repr

namespace Target

def isSchemeChar (c : Char) : Bool :=
  Text.isLetter c || Text.isDigit c || c == '+' || c == '-' || c == '.' || c == '~'

/-- The text behind a scheme and `://`. -/
def afterScheme? (text : List Char) : Option (List Char) :=
  match Text.splitOnce ':' text with
  | some (scheme, '/' :: '/' :: rest) =>
    if scheme.all isSchemeChar then some rest else none
  | _ => none

/-- A character at which an authority or a path ends. -/
def endsAuthority (c : Char) : Bool :=
  c == '/' || c == '?' || c == '#'

def endsPath (c : Char) : Bool :=
  c == '?' || c == '#'

def pathOf (text : List Char) : List Char :=
  text.takeWhile fun c => !endsPath c

def parse (text : List Char) : Target :=
  match text with
  | '/' :: _ => ⟨none, pathOf text⟩
  | ['*'] => ⟨none, text⟩
  | _ =>
    match afterScheme? text with
    | none => ⟨some text, []⟩
    | some rest =>
      let path := pathOf (rest.dropWhile fun c => !endsAuthority c)
      ⟨some (rest.takeWhile fun c => !endsAuthority c), if path.isEmpty then ['/'] else path⟩

/-- The text behind the last `@`. -/
def withoutUser (authority : List Char) : List Char :=
  (authority.reverse.takeWhile fun c => c != '@').reverse

/-- A bracketed literal with its brackets, or all up to the port. -/
def hostOf (authority : List Char) : List Char :=
  match withoutUser authority with
  | '[' :: rest => '[' :: Text.before ']' rest ++ [']']
  | text => Text.before ':' text

/-- The host of the target, without user and port. -/
def host? (target : Target) : Option (List Char) :=
  target.authority.map hostOf

end Target

end Gatehouse.Http
