/-! What can go wrong with keys and tokens. -/
namespace Gatehouse.Token

inductive Error
  /-- The key does not have 32 bytes but `actual` ones. -/
  | keySize (actual : Nat)
  | keyEncoding
  | invalid
  | expired
  | notYetValid
  | encoding (detail : String)
  deriving DecidableEq, Repr

def Error.message : Error → String
  | .keySize actual => s!"invalid key size: expected 32 bytes, got {actual}"
  | .keyEncoding => "invalid key encoding"
  | .invalid => "invalid token"
  | .expired => "token expired"
  | .notYetValid => "token not yet valid"
  | .encoding detail => s!"token encoding failed: {detail}"

/-- How verifying a token can fail: with one of the errors, or by a panic with a message. -/
inductive Failure
  | error (error : Error)
  | panic (message : String)
  deriving DecidableEq, Repr

end Gatehouse.Token
