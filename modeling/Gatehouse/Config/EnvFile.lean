import Gatehouse.Config.Environment
import Gatehouse.Text.Alphanumeric
import Gatehouse.Text.Ascii
import Gatehouse.Text.Blank
import Gatehouse.Text.Quoted

/-! Files of variables: lines `KEY=value` with comments behind `#`. Values may be quoted, hold
escapes and name earlier variables behind `$`. A value of the file is used only where the
environment has none. Reading ends at the first line that cannot be read; what was read before
stays in force. A value that no environment can hold is a failure of its own. -/
namespace Gatehouse.EnvFile

/-! ## Lines -/

/-- What an open quotation or escape asks of the next character, and across a line's end. -/
inductive Scan
  | plain
  | escape
  | strong
  | strongEscape
  | weak
  | weakEscape
  | comment
  | blank
  deriving DecidableEq

/-- The state after one character outside quotations. -/
def scanOpening (c : Char) : Scan :=
  if c = '\\' then .escape
  else if c = '"' then .weak
  else if c = '\'' then .strong
  else .plain

def scanChar (state : Scan) (c : Char) : Scan :=
  match state with
  | .blank => if c = '#' then .comment else scanOpening c
  | .escape => .plain
  | .plain => if Text.isBlank c && c != '\n' && c != '\r' then .blank else scanOpening c
  | .weak => if c = '\\' then .weakEscape else if c = '"' then .plain else .weak
  | .weakEscape => .weak
  | .strong => if c = '\\' then .strongEscape else if c = '\'' then .plain else .strong
  | .strongEscape => .strong
  | .comment => .comment

/-- The state after a line, and the line up to a comment in it. -/
def scanLine (state : Scan) : List Char → Scan × List Char
  | [] => (state, [])
  | c :: rest =>
    match scanChar state c with
    | .comment => (.comment, [])
    | state =>
      let (final, kept) := scanLine state rest
      (final, c :: kept)

/-- Lines with their line feeds. -/
def splitLines : List Char → List (List Char)
  | [] => []
  | c :: rest =>
    if c = '\n' then [c] :: splitLines rest
    else match splitLines rest with
      | [] => [[c]]
      | line :: more => (c :: line) :: more

/-- The line without its line feed, or carriage return and line feed. -/
def withoutLineEnd (line : List Char) : List Char :=
  match line.reverse with
  | '\n' :: '\r' :: rest => rest.reverse
  | '\n' :: rest => rest.reverse
  | _ => line

/-- Joins lines that a quotation or an escape runs across. A quotation that is still open at
the end of the file is an error, `none`. -/
def joinLines (pending : List Char) (state : Scan) : List (List Char) → List (Option (List Char))
  | [] => if state = .plain then [] else [none]
  | line :: rest =>
    let whole := pending ++ line
    if (Text.trimLeft whole).head? = some '#' then joinLines [] .plain rest
    else match scanLine state line with
      | (.plain, _) => some (withoutLineEnd whole) :: joinLines [] .plain rest
      | (.comment, kept) => some (pending ++ kept) :: joinLines [] .plain rest
      | (state, _) => joinLines whole state rest

/-! ## Values -/

/-- Where a reference to a variable stands: none is open, one that ends at the first character
which is neither letter nor digit, or one in braces. -/
inductive Reference
  | none
  | bare
  | braced
  deriving DecidableEq

/-- What has been read of a value. -/
structure Value where
  output : List Char
  strong : Bool
  weak : Bool
  escaped : Bool
  reference : Reference
  name : List Char
  /-- The value is over; only blanks and a comment may follow. -/
  ended : Bool

def Value.start : Value := ⟨[], false, false, false, .none, [], false⟩

/-- The characters read so far with one more. -/
def Value.push (v : Value) (c : Char) : Value :=
  { v with output := v.output ++ [c] }

/-- What a variable stands for. -/
abbrev Lookup := String → String

/-- Closes a reference: the variable's value takes its place. -/
def Value.resolve (lookup : Lookup) (v : Value) : Value :=
  { v with
    output := v.output ++ (lookup (String.ofList v.name)).toList, name := [], reference := .none }

/-- An escaped character stands for itself, and `n` for a line feed. -/
def unescape? (c : Char) : Option Char :=
  if c = '\\' ∨ c = '\'' ∨ c = '"' ∨ c = '$' ∨ c = ' ' then some c
  else if c = 'n' then some '\n'
  else none

/-- One character of the name of a variable, or behind it. A reference may hold the letters and
numerals of every script, though a key that the file sets is of ASCII alone. -/
def Value.stepReference (lookup : Lookup) (v : Value) (c : Char) : Value :=
  if Text.isAlphanumeric c then { v with name := v.name ++ [c] }
  else match v.reference with
    | .braced =>
      if c = '\x7d' then v.resolve lookup else { v with name := v.name ++ [c] }
    | _ =>
      if c = '\x7b' ∧ v.name = [] then { v with reference := .braced }
      else if c = '$' then { v.resolve lookup with reference := .bare }
      else (v.resolve lookup).push c

/-- One character outside escapes, strong quotations and references. -/
def Value.stepPlain (v : Value) (c : Char) : Value :=
  if c = '$' then { v with reference := .bare }
  else if v.weak then
    if c = '"' then { v with weak := false }
    else if c = '\\' then { v with escaped := true }
    else v.push c
  else if c = '\'' then { v with strong := true }
  else if c = '"' then { v with weak := true }
  else if c = '\\' then { v with escaped := true }
  else if c = ' ' ∨ c = '\t' then { v with ended := true }
  else v.push c

/-- Reads a value. An unknown escape, an open quotation or brace, or a second word refuses it. -/
def readValue? (lookup : Lookup) (v : Value) : List Char → Option (List Char)
  | [] =>
    if v.reference = .braced ∨ v.strong ∨ v.weak then none else some (v.resolve lookup).output
  | c :: rest =>
    if v.ended then
      if c = ' ' ∨ c = '\t' then readValue? lookup v rest
      else if c = '#' then readValue? lookup v []
      else none
    else if v.escaped then
      match unescape? c with
      | none => none
      | some c => readValue? lookup { v.push c with escaped := false } rest
    else if v.strong then
      readValue? lookup (if c = '\'' then { v with strong := false } else v.push c) rest
    else if v.reference ≠ .none then readValue? lookup (v.stepReference lookup c) rest
    else readValue? lookup (v.stepPlain c) rest
termination_by text => text.length

/-! ## Assignments -/

def isKeyStart (c : Char) : Bool :=
  Text.isLetter c || c == '_'

def isKeyChar (c : Char) : Bool :=
  isKeyStart c || Text.isDigit c || c == '.'

/-- A key, and what follows it and its blanks. -/
def readKey? (text : List Char) : Option (List Char × List Char) :=
  match text with
  | [] => none
  | c :: _ =>
    if isKeyStart c then some (text.takeWhile isKeyChar, Text.trimLeft (text.dropWhile isKeyChar))
    else none

def readEqual? : List Char → Option (List Char)
  | '=' :: rest => some rest
  | _ => none

/-- The key of a line and the text of its value. The word `export` may stand before the key. -/
def readHead? (text : List Char) : Option (List Char × List Char) := do
  let (key, rest) ← readKey? text
  match readEqual? rest with
  | some value => some (key, value)
  | none =>
    if key = "export".toList then
      let (key, rest) ← readKey? rest
      some (key, ← readEqual? rest)
    else none

/-- The variables set so far, and the values that the file gave. -/
structure Progress where
  env : Environment
  given : List (String × String)

/-- The environment comes before the file's own values; what neither knows is empty. -/
def Progress.lookup (p : Progress) (name : String) : String :=
  ((p.env.get? name).or (p.given.lookup name)).getD ""

/-- A variable with a null character in its value, which ends a value in the environment. -/
structure Unsettable where
  name : String
  value : String
  deriving DecidableEq, Repr

def Unsettable.message (u : Unsettable) : String :=
  s!"failed to set environment variable `{Text.quotedFully u.name}` to " ++
    s!"`{Text.quotedFully u.value}`: file name contained an unexpected NUL byte"

/-- Sets a variable that the environment lacks. -/
def Progress.assign (p : Progress) (name value : String) : Except Unsettable Progress :=
  if (p.env.get? name).isNone && value.toList.contains '\x00' then .error ⟨name, value⟩
  else .ok ⟨p.env.setDefault name value, (name, value) :: p.given⟩

/-- What a line sets, or nothing if it is blank or a comment; `none` if it cannot be read. -/
def readLine? (p : Progress) (line : List Char) : Option (Option (String × String)) :=
  let text := Text.trimLeft (Text.trimRight line)
  if text.isEmpty || text.head? = some '#' then some none
  else do
    let (key, value) ← readHead? text
    let value := Text.trimLeft value
    let value ←
      if value.isEmpty || value.head? = some '#' then some []
      else readValue? p.lookup Value.start value
    some (some (String.ofList key, String.ofList value))

/-- Reads lines up to the first that cannot be read. -/
def readLines (p : Progress) : List (Option (List Char)) → Except Unsettable Progress
  | some line :: rest =>
    match readLine? p line with
    | some (some (name, value)) => do readLines (← p.assign name value) rest
    | some none => readLines p rest
    | none => .ok p
  | _ => .ok p

/-- A mark that some editors put at the start of a file means nothing. -/
def withoutMark (text : List Char) : List Char :=
  match text with
  | '\uFEFF' :: rest => rest
  | _ => text

/-- The environment completed by a file. -/
def load (env : Environment) (file : String) : Except Unsettable Environment :=
  (readLines ⟨env, []⟩ (joinLines [] .plain (splitLines (withoutMark file.toList)))).map
    Progress.env

end Gatehouse.EnvFile
