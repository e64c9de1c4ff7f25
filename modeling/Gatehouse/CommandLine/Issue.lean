import Gatehouse.CommandLine.Arguments
import Gatehouse.Config.Environment
import Gatehouse.Token.Service

/-! The command that issues a token, for trying the service out. It uses the key that the service
verifies with. -/
namespace Gatehouse.CommandLine

/-- What comes of running the command. -/
inductive Result
  | interrupted (interruption : Interruption)
  | failed (message : String)
  | issued (claims : Token.Claims) (token : String)

/-- What the command tells whoever runs it about success. -/
def Result.exitCode : Result → Nat
  | .interrupted .misuse => 2
  | .interrupted _ => 0
  | .failed _ => 1
  | .issued _ _ => 0

/-- The line about a failure. -/
def Result.complaint : Result → String
  | .failed message => message ++ "\n"
  | _ => ""

/-- Issues a token at second `now`. -/
def issue (key : Token.Key) (iv : Bytes) (now : Int) (arguments : Arguments) : Result :=
  match Token.Lifetime.ofParts? arguments.lifetime 0 with
  | none => .failed s!"--ttl-seconds out of range: {arguments.lifetime}"
  | some lifetime =>
    let claims := Token.claimsAt arguments.userId arguments.tenantId
      (Token.Role.ofText arguments.role) lifetime now
    .issued claims (Token.issue key iv claims)

/-- The key that the environment gives. -/
def keyOf (env : Environment) : Except String Token.Key :=
  match env.get? "TOKEN_SECRET_HEX" with
  | none => .error "TOKEN_SECRET_HEX is not set"
  | some text => (Token.Key.ofHex text).mapError fun error =>
    s!"invalid TOKEN_SECRET_HEX: {error.message}"

/-- Runs the command. The arguments are looked at before the key. -/
def run (arguments : List Bytes) (environment : List (String × Bytes)) (iv : Bytes) (now : Int) :
    Result :=
  match Arguments.read arguments (environment.lookup lifetimeVariable) with
  | .error interruption => .interrupted interruption
  | .ok arguments =>
    match keyOf (.ofBytes environment) with
    | .error message => .failed message
    | .ok key => issue key iv now arguments

end Gatehouse.CommandLine
