import Gatehouse.Bytes.Basic
import Gatehouse.Text.Integer
import Gatehouse.Text.Pieces

/-! The arguments of the command that issues tokens. An option stands before its value, or is
joined to it by an equals sign. Each may be given once. A value may begin with a hyphen only if it
is joined or is a negative lifetime. Arguments are read in order, and the first that asks for
help or cannot be used ends the reading. -/
namespace Gatehouse.CommandLine

inductive Parameter
  | userId
  | tenantId
  | role
  | lifetime
  deriving DecidableEq, Repr

/-- Why there are no arguments to issue a token with. -/
inductive Interruption
  | help
  | version
  | misuse
  deriving DecidableEq, Repr

/-- The values that have been given so far. -/
structure Given where
  userId : Option Int
  tenantId : Option String
  role : Option String
  lifetime : Option Int
  deriving DecidableEq, Repr

/-- What a token is to be issued with. -/
structure Arguments where
  userId : Int
  tenantId : String
  role : String
  /-- In seconds; the token of a negative lifetime has expired when it is issued. -/
  lifetime : Int
  deriving DecidableEq, Repr

/-- The role unless one is given. -/
def defaultRole : String := "member"

/-- The lifetime in seconds unless one is given. -/
def defaultLifetime : Int := 28800

/-- The variable that can give a lifetime. -/
def lifetimeVariable : String := "ACCESS_TOKEN_TTL_SECONDS"

def Parameter.ofName? : String → Option Parameter
  | "user-id" => some .userId
  | "tenant-id" => some .tenantId
  | "role" => some .role
  | "ttl-seconds" => some .lifetime
  | _ => none

def readNumber (text : String) : Except Interruption Int :=
  match Text.readInt? Text.minI64 Text.maxI64 text.toList with
  | some n => .ok n
  | none => .error .misuse

namespace Given

def nothing : Given := ⟨none, none, none, none⟩

def has (given : Given) : Parameter → Bool
  | .userId => given.userId.isSome
  | .tenantId => given.tenantId.isSome
  | .role => given.role.isSome
  | .lifetime => given.lifetime.isSome

def set (given : Given) (parameter : Parameter) (value : String) : Except Interruption Given :=
  if given.has parameter then .error .misuse
  else match parameter with
    | .userId => (readNumber value).map fun n => { given with userId := some n }
    | .tenantId => .ok { given with tenantId := some value }
    | .role => .ok { given with role := some value }
    | .lifetime => (readNumber value).map fun n => { given with lifetime := some n }

end Given

/-- What the next argument has to be. -/
inductive Expected
  | option
  | value (parameter : Parameter)
  /-- Nothing may follow. -/
  | nothing
  deriving DecidableEq, Repr

/-- An option, or a flag that ends the reading. -/
def readLong (given : Given) (text : List Char) : Except Interruption (Expected × Given) :=
  match Text.splitOnce '=' text with
  | some (name, value) =>
    match Parameter.ofName? (String.ofList name) with
    | some parameter =>
      (given.set parameter (String.ofList value)).map fun given => (.option, given)
    | none => .error .misuse
  | none =>
    match String.ofList text with
    | "help" => .error .help
    | "version" => .error .version
    | name =>
      match Parameter.ofName? name with
      | some parameter => .ok (.value parameter, given)
      | none => .error .misuse

/-- Of letters behind one hyphen the first decides. -/
def readShort : List Char → Interruption
  | 'h' :: _ => .help
  | 'V' :: _ => .version
  | _ => .misuse

def readOption (given : Given) (text : List Char) : Except Interruption (Expected × Given) :=
  match text with
  | ['-', '-'] => .ok (.nothing, given)
  | '-' :: '-' :: rest => readLong given rest
  | '-' :: rest => .error (readShort rest)
  | _ => .error .misuse

/-- Whether a text can stand as a value of its own. -/
def isValue (parameter : Parameter) (text : List Char) : Bool :=
  parameter == .lifetime || text == ['-'] || text.head? != some '-'

def readArgument (expected : Expected) (given : Given) (text : String) :
    Except Interruption (Expected × Given) :=
  match expected with
  | .nothing => .error .misuse
  | .option => readOption given text.toList
  | .value parameter =>
    if isValue parameter text.toList then
      (given.set parameter text).map fun given => (.option, given)
    else .error .misuse

def readAll (expected : Expected) (given : Given) : List Bytes → Except Interruption Given
  | [] =>
    match expected with
    | .value _ => .error .misuse
    | _ => .ok given
  | argument :: rest =>
    match argument.toText? with
    | none => .error .misuse
    | some text => do
      let (expected, given) ← readArgument expected given text
      readAll expected given rest

/-- The lifetime that the environment gives. -/
def readSetting : Option Bytes → Except Interruption Int
  | none => .ok defaultLifetime
  | some bytes =>
    match bytes.toText? with
    | none => .error .misuse
    | some text => readNumber text

/-- Reads arguments. A lifetime that is not among them comes from the setting in the
environment; the user and the tenant must be given. -/
def Arguments.read (arguments : List Bytes) (setting : Option Bytes) :
    Except Interruption Arguments := do
  let given ← readAll .option .nothing arguments
  let lifetime ← match given.lifetime with
    | some seconds => pure seconds
    | none => readSetting setting
  match given.userId, given.tenantId with
  | some userId, some tenantId =>
    pure ⟨userId, tenantId, given.role.getD defaultRole, lifetime⟩
  | _, _ => .error .misuse

end Gatehouse.CommandLine
