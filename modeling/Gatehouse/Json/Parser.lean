import Gatehouse.Json.Lexer
import Gatehouse.Number.Decimal

/-! Values from tokens. The reader keeps the arrays and objects that are still open on a
stack, so nesting is bounded by memory alone; a bound is imposed only where one is wanted. -/
namespace Gatehouse.Json

variable {α : Type}

/-- An array or object that is still open, with what it holds so far in reverse. -/
inductive Frame (α : Type)
  | array (items : List (Json α))
  /-- The value of `key` is being read. -/
  | object (members : List (α × Json α)) (key : α)

/-- What may come next. -/
inductive Expect (α : Type)
  | value
  /-- The first item of an array, or its end. -/
  | itemOrEnd
  /-- The first key of an object, or its end. -/
  | keyOrEnd
  /-- A key, after the given members. -/
  | key (members : List (α × Json α))
  /-- A colon after a key. -/
  | colon (members : List (α × Json α)) (key : α)
  /-- A comma or an end after a complete value. -/
  | after (value : Json α)

/-- One token where a value may begin: it is the value, or it opens one. -/
def beginValue (stack : List (Frame α)) : Token α → Option (Expect α × List (Frame α))
  | .null => some (.after .null, stack)
  | .bool b => some (.after (.bool b), stack)
  | .number n => some (.after (.number n), stack)
  | .string s => some (.after (.string s), stack)
  | .openBracket => some (.itemOrEnd, stack)
  | .openBrace => some (.keyOrEnd, stack)
  | _ => none

/-- One token after a complete value. -/
def continueAfter (value : Json α) : List (Frame α) → Token α → Option (Expect α × List (Frame α))
  | .array items :: stack, .comma => some (.value, .array (value :: items) :: stack)
  | .array items :: stack, .closeBracket => some (.after (.array (value :: items).reverse), stack)
  | .object members key :: stack, .comma => some (.key ((key, value) :: members), stack)
  | .object members key :: stack, .closeBrace =>
    some (.after (.object ((key, value) :: members).reverse), stack)
  | _, _ => none

/-- The state after one token. -/
def step : Expect α → List (Frame α) → Token α → Option (Expect α × List (Frame α))
  | .value, stack, token => beginValue stack token
  | .itemOrEnd, stack, .closeBracket => some (.after (.array []), stack)
  | .itemOrEnd, stack, token => beginValue (.array [] :: stack) token
  | .keyOrEnd, stack, .closeBrace => some (.after (.object []), stack)
  | .keyOrEnd, stack, .string key => some (.colon [] key, stack)
  | .key members, stack, .string key => some (.colon members key, stack)
  | .colon members key, stack, .colon => some (.value, .object members key :: stack)
  | .after value, stack, token => continueAfter value stack token
  | _, _, _ => none

/-- Reads all tokens. The text must hold one value and nothing after it. -/
def readValue? : Expect α → List (Frame α) → List (Token α) → Option (Json α)
  | .after value, [], [] => some value
  | _, _, [] => none
  | expect, stack, token :: tokens =>
    match step expect stack token with
    | none => none
    | some (expect, stack) => readValue? expect stack tokens

def ofTokens? (tokens : List (Token α)) : Option (Json α) :=
  readValue? .value [] tokens

/-- The value of a JSON text, with any nesting. -/
def parse? (bytes : Bytes) : Option (Json (Option String)) :=
  (lex? bytes).bind ofTokens?

/-- The largest number of arrays and objects open at once, given how many are open. -/
def nestingFrom (isOpen deepest : Nat) : List (Token α) → Nat
  | [] => deepest
  | .openBracket :: rest => nestingFrom (isOpen + 1) (max deepest (isOpen + 1)) rest
  | .openBrace :: rest => nestingFrom (isOpen + 1) (max deepest (isOpen + 1)) rest
  | .closeBracket :: rest => nestingFrom (isOpen - 1) deepest rest
  | .closeBrace :: rest => nestingFrom (isOpen - 1) deepest rest
  | _ :: rest => nestingFrom isOpen deepest rest

def nesting (tokens : List (Token α)) : Nat :=
  nestingFrom 0 0 tokens

/-- The number is in the range of doubles. -/
def isRepresentable : Numeral → Bool
  | .integer n => Number.Decimal.isInRange ⟨n.natAbs, 0⟩
  | .real _ digits power => Number.Decimal.isInRange ⟨digits, power⟩

/-- The token, if it denotes a text or a number that can be represented. -/
def Token.strict? : Token (Option String) → Option (Token String)
  | .openBracket => some .openBracket
  | .closeBracket => some .closeBracket
  | .openBrace => some .openBrace
  | .closeBrace => some .closeBrace
  | .comma => some .comma
  | .colon => some .colon
  | .null => some .null
  | .bool b => some (.bool b)
  | .number n => if isRepresentable n then some (.number n) else none
  | .string s => s.map .string

/-- The value of a JSON text with at most `levels` arrays and objects open at once, all of
whose strings denote texts and all of whose numbers can be represented. -/
def parseStrict? (levels : Nat) (bytes : Bytes) : Option (Json String) := do
  let tokens ← lex? bytes
  if nesting tokens ≤ levels then ofTokens? (← tokens.mapM Token.strict?) else none

end Gatehouse.Json
