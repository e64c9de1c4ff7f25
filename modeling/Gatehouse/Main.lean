import Gatehouse.CommandLine.Issue
import Gatehouse.Config.EnvFile
import Std.Time.DateTime.Timestamp

/-! The command that issues a token. It reads the arguments, the environment, a file of variables,
the clock and random bytes, and prints what comes of them. -/
namespace Gatehouse.CommandLine

def usage : String :=
  "Issue an access token for local testing.\n\n" ++
    "Usage: token-gen [OPTIONS] --user-id <USER_ID> --tenant-id <TENANT_ID>\n\n" ++
    "Options:\n" ++
    "  --user-id <USER_ID>          internal user id\n" ++
    "  --tenant-id <TENANT_ID>      tenant that the token is for\n" ++
    "  --role <ROLE>                a number is a role id, anything else a role name\n" ++
    "  --ttl-seconds <SECONDS>      lifetime; negative for an expired token\n" ++
    "  -h, --help                   this text\n" ++
    "  -V, --version                the version\n"

/-- The variables that the command looks at. -/
def usedVariables : List String :=
  ["TOKEN_SECRET_HEX", lifetimeVariable]

def readEnvironment : IO Environment := do
  let mut entries := #[]
  for name in usedVariables do
    if let some value ← IO.getEnv name then
      entries := entries.push (name, value)
  return ⟨entries.toList⟩

def readEnvFile : IO String := do
  try IO.FS.readFile ".env" catch _ => return ""

def report (result : Result) : IO UInt32 := do
  match result with
  | .interrupted .help => IO.print usage
  | .interrupted .version => IO.println "token-gen 0.1.0"
  | .interrupted .misuse => IO.eprint usage
  | .failed _ => IO.eprint result.complaint
  | .issued _ token => IO.println token
  return UInt32.ofNat result.exitCode

/-- Reads everything that the command needs and runs it. -/
def perform (arguments : List String) : IO UInt32 := do
  match EnvFile.load (← readEnvironment) (← readEnvFile) with
  | .error unsettable =>
    IO.eprintln unsettable.message
    return 101
  | .ok env =>
    let iv := (← IO.getRandomBytes 12).toList
    let now := (← Std.Time.Timestamp.now).toSecondsSinceUnixEpoch.val
    report <| run (arguments.map Bytes.ofText)
      (env.entries.map fun (name, value) => (name, Bytes.ofText value)) iv now

end Gatehouse.CommandLine

def main (arguments : List String) : IO UInt32 :=
  Gatehouse.CommandLine.perform arguments
