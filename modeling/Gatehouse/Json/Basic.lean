/-! JSON values and their tokens. The type of texts is a parameter: values that are written
hold strings, values that are read may also hold literals that denote no text, since a
reader that skips a member does not look into its strings. -/
namespace Gatehouse

/-- A number literal. Literals with a fraction or an exponent are kept apart from integers
even if their value is whole, and so is minus zero. -/
inductive Numeral
  | integer (value : Int)
  /-- `digits * 10^power`, negated if `negative`. -/
  | real (negative : Bool) (digits : Nat) (power : Int)
  deriving DecidableEq

inductive Json (α : Type)
  | null
  | bool (value : Bool)
  | number (value : Numeral)
  | string (text : α)
  | array (items : List (Json α))
  | object (members : List (α × Json α))

namespace Json

/-- The smallest pieces of a JSON text. Blanks between them mean nothing. -/
inductive Token (α : Type)
  | openBracket
  | closeBracket
  | openBrace
  | closeBrace
  | comma
  | colon
  | null
  | bool (value : Bool)
  | number (value : Numeral)
  | string (text : α)
  deriving DecidableEq

variable {α : Type}

def int (n : Int) : Json α := .number (.integer n)

mutual

/-- The one token sequence of a value. -/
def tokens : Json α → List (Token α)
  | .null => [.null]
  | .bool b => [.bool b]
  | .number n => [.number n]
  | .string s => [.string s]
  | .array items => .openBracket :: itemTokens items ++ [.closeBracket]
  | .object members => .openBrace :: memberTokens members ++ [.closeBrace]

/-- The items of an array with commas between them. -/
def itemTokens : List (Json α) → List (Token α)
  | [] => []
  | [item] => item.tokens
  | item :: more => item.tokens ++ .comma :: itemTokens more

/-- The members of an object with commas between them. -/
def memberTokens : List (α × Json α) → List (Token α)
  | [] => []
  | [(key, value)] => .string key :: .colon :: value.tokens
  | (key, value) :: more => .string key :: .colon :: value.tokens ++ .comma :: memberTokens more

end

/-- The members of an object with the given key, in order. -/
def valuesOf [DecidableEq α] (key : α) (members : List (α × Json α)) : List (Json α) :=
  (members.filter fun member => member.1 = key).map fun member => member.2

end Json

end Gatehouse
