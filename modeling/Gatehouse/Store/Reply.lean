import Gatehouse.Bytes.Basic
import Gatehouse.Number.Decimal
import Gatehouse.RateLimit.Basic
import Gatehouse.Text.Integer
import Gatehouse.Text.Pieces

/-! Replies of the key-value server, and what the service reads from them. A reply of the wrong
shape is an error of the command, just as an error reply. -/
namespace Gatehouse.Store

inductive Reply
  | nothing
  | bulk (bytes : Bytes)
  | int (value : Int)
  | status (text : String)
  | error (text : String)
  | array (items : List Reply)

namespace Reply

def unexpected : Error := .command "unexpected reply"

/-- The text of a reply; an integer stands for its digits. -/
def text? : Reply → Option String
  | .bulk bytes => bytes.toText?
  | .status text => some text
  | .int value => some (toString value)
  | _ => none

/-- The integer of a reply; a text stands for the integer that it spells. -/
def int? (reply : Reply) : Option Int :=
  match reply with
  | .int value => some value
  | _ => reply.text?.bind fun text => Text.readInt? Text.minI64 Text.maxI64 text.toList

/-- The count of a reply, in 64 bits without a sign. -/
def count? : Reply → Option Nat
  | .int value => some (value % 18446744073709551616).toNat
  | reply => reply.text?.bind fun text => Text.readNat? Text.maxU64 text.toList

mutual

/-- The first error in a reply, at any depth. -/
def error? : Reply → Option String
  | .error text => some text
  | .array items => firstError? items
  | _ => none

def firstError? : List Reply → Option String
  | [] => none
  | reply :: rest => (error? reply).or (firstError? rest)

end

/-- The server does not know the script that it was to run. -/
def lacksScript (reply : Reply) : Bool :=
  reply.error?.any fun text => Text.before ' ' text.toList == "NOSCRIPT".toList

/-- A reply in which nothing is an error. -/
def succeed (reply : Reply) : Except Error Reply :=
  match reply.error? with
  | some text => .error (.command text)
  | none => .ok reply

/-- What a read found. -/
def readValue (reply : Reply) : Except Error (Option String) := do
  match ← reply.succeed with
  | .nothing => .ok none
  | reply =>
    match reply.text? with
    | some text => .ok (some text)
    | none => .error unexpected

/-- A text that was written is read as it is. -/
theorem readValue_bulk_ofText (text : String) :
    (bulk (Bytes.ofText text)).readValue = .ok (some text) := by
  change (match (Bytes.ofText text).toText? with
    | some text => Except.ok (some text)
    | none => .error unexpected) = _
  rw [Bytes.toText?_ofText]

/-- A write fails with an error in the reply only. -/
def readDone (reply : Reply) : Except Error Unit :=
  reply.succeed.map fun _ => ()

/-- How many entries a deletion removed. -/
def readCount (reply : Reply) : Except Error Nat := do
  match (← reply.succeed).count? with
  | some n => .ok n
  | none => .error unexpected

/-- A span of time given in seconds. Blanks around the number mean nothing. -/
def readSeconds (text : String) : Except RateLimit.Error Duration :=
  match (Number.readFloat? (Text.trim text.toList)).bind Duration.ofFloat? with
  | some d => .ok d
  | none => .error (.invalidReply text)

/-- The largest number of requests that a decision can state. -/
def clampRemaining (n : Int) : Nat :=
  min n.toNat Text.maxU32

def decisionOf? : List Reply → Option (Int × Int × String × String)
  | [allowed, remaining, retryAfter, resetAfter] => do
    some (← allowed.int?, ← remaining.int?, ← retryAfter.text?, ← resetAfter.text?)
  | _ => none

/-- The decision of the counting script: whether it allows, how many remain, and two times. -/
def readDecision (reply : Reply) : Except RateLimit.Error RateLimit.Decision := do
  match ← reply.succeed.mapError .unavailable with
  | .array items =>
    match decisionOf? items with
    | none => .error (.unavailable unexpected)
    | some (allowed, remaining, retryAfter, resetAfter) => do
      let reset ← readSeconds resetAfter
      let retry ← readSeconds retryAfter
      .ok ⟨decide (0 < allowed), clampRemaining remaining, reset, retry⟩
  | _ => .error (.unavailable unexpected)

end Reply

end Gatehouse.Store
