import Gatehouse.Proofs.Literals

/-! The grammar of JSON texts, byte by byte. It tells which bytes spell a number, a character of a
string, a token and the tokens of a value, and leaves open how they are read. It is that of the
standard but for strings of which only the syntax counts: between their quotes stand any bytes,
whether they are those of characters or not. -/
namespace Gatehouse.Json

/-! ## Numbers -/

/-- The digits behind a point, if there is a point. -/
inductive SpellsFraction : Option Bytes → Bytes → Prop
  | absent : SpellsFraction none []
  | present {digits : Bytes} (h : IsDigits digits) : SpellsFraction (some digits) (0x2E :: digits)

/-- The exponent behind its mark, if there is one. Its digits may begin with zeros. -/
inductive SpellsExponent : Option Int → Bytes → Prop
  | absent : SpellsExponent none []
  | plain {mark : UInt8} {digits : Bytes} (hMark : mark = 0x65 ∨ mark = 0x45)
      (h : IsDigits digits) : SpellsExponent (some (digitBytesValue digits)) (mark :: digits)
  | plus {mark : UInt8} {digits : Bytes} (hMark : mark = 0x65 ∨ mark = 0x45)
      (h : IsDigits digits) : SpellsExponent (some (digitBytesValue digits)) (mark :: 0x2B :: digits)
  | minus {mark : UInt8} {digits : Bytes} (hMark : mark = 0x65 ∨ mark = 0x45)
      (h : IsDigits digits) :
      SpellsExponent (some (-(digitBytesValue digits : Int))) (mark :: 0x2D :: digits)

def signBytes (negative : Bool) : Bytes :=
  if negative then [0x2D] else []

/-- An integer has one spelling, its decimal digits without leading zeros. Minus zero, and whatever
has a fraction or an exponent, is no integer. -/
inductive SpellsNumber : Numeral → Bytes → Prop
  | integer (n : Int) : SpellsNumber (.integer n) (utf8 (integerLiteral n))
  | minusZero : SpellsNumber (.real true 0 0) [0x2D, 0x30]
  | real (negative : Bool) (whole : Nat) {fraction : Option Bytes} {power : Option Int}
      {point exponent : Bytes} (hFraction : SpellsFraction fraction point)
      (hExponent : SpellsExponent power exponent) (hReal : fraction ≠ none ∨ power ≠ none) :
      SpellsNumber
        (.real negative (digitBytesValue (digitBytes whole ++ fraction.getD []))
          (power.getD 0 - (fraction.getD []).length))
        (signBytes negative ++ (digitBytes whole ++ (point ++ exponent)))

/-! ## Strings -/

/-- Four hexadecimal digits of either case. -/
inductive SpellsUnit : Nat → Bytes → Prop
  | digits {a b c d : UInt8} {w x y z : Nat} (ha : hexByteValue? a = some w)
      (hb : hexByteValue? b = some x) (hc : hexByteValue? c = some y)
      (hd : hexByteValue? d = some z) :
      SpellsUnit (((w * 16 + x) * 16 + y) * 16 + z) [a, b, c, d]

/-- The letters of the short escapes, with the characters that they stand for. -/
def shortEscapes : List (Char × Char) :=
  [('"', '"'), ('\\', '\\'), ('/', '/'), ('b', '\x08'), ('f', '\x0c'), ('n', '\n'), ('r', '\r'),
   ('t', '\t')]

/-- The code of the character that a pair of surrogates stands for. -/
def pairCode (high low : Nat) : Nat :=
  0x10000 + (high - 0xD800) * 0x400 + (low - 0xDC00)

/-- A character stands for itself, unless it is a control character, a quote or a backslash. Every
character may be escaped, by a letter if there is one for it, by its code, or by a pair of
surrogates if its code has more than four digits. -/
inductive SpellsChar : Char → Bytes → Prop
  | plain {c : Char} (hPlain : ¬ c < ' ') (hQuote : c ≠ '"') (hEscape : c ≠ '\\') :
      SpellsChar c (utf8 [c])
  | short {letter c : Char} (h : (letter, c) ∈ shortEscapes) : SpellsChar c (utf8 ['\\', letter])
  | code {c : Char} {digits : Bytes} (h : SpellsUnit c.toNat digits) :
      SpellsChar c (0x5C :: 0x75 :: digits)
  | surrogates {c : Char} {high low : Nat} {first second : Bytes} (hFirst : SpellsUnit high first)
      (hSecond : SpellsUnit low second) (hHigh : isHighSurrogate high = true)
      (hLow : isLowSurrogate low = true) (h : c.toNat = pairCode high low) :
      SpellsChar c ((0x5C :: 0x75 :: first) ++ (0x5C :: 0x75 :: second))

/-- The characters of a text between quotes. -/
inductive SpellsText : List Char → Bytes → Prop
  | nil : SpellsText [] []
  | cons {c : Char} {text : List Char} {literal rest : Bytes} (hChar : SpellsChar c literal)
      (h : SpellsText text rest) : SpellsText (c :: text) (literal ++ rest)

/-- A piece of a string of which nothing is known but its syntax: the bytes need not be those of
characters, as `0xFF` never is, and the surrogates need not be in pairs. -/
inductive SpellsPiece : Piece → Bytes → Prop
  | plain {b : UInt8} (hPlain : 0x20 ≤ b) (hQuote : b ≠ 0x22) (hEscape : b ≠ 0x5C) :
      SpellsPiece (.byte b) [b]
  | short {letter c : Char} (h : (letter, c) ∈ shortEscapes) :
      SpellsPiece (.byte (UInt8.ofNat c.toNat)) (utf8 ['\\', letter])
  | code {n : Nat} {digits : Bytes} (h : SpellsUnit n digits) :
      SpellsPiece (.unit n) (0x5C :: 0x75 :: digits)

inductive SpellsPieces : List Piece → Bytes → Prop
  | nil : SpellsPieces [] []
  | cons {piece : Piece} {pieces : List Piece} {literal rest : Bytes}
      (hPiece : SpellsPiece piece literal) (h : SpellsPieces pieces rest) :
      SpellsPieces (piece :: pieces) (literal ++ rest)

/-! ## Tokens and texts -/

/-- A string token holds its text, or nothing if it is a string by its syntax alone. A string of the
latter kind may be no UTF-8, so that the bytes around it are no text. -/
inductive Token.Spelled : Token (Option String) → Bytes → Prop
  | openBracket : Spelled .openBracket [0x5B]
  | closeBracket : Spelled .closeBracket [0x5D]
  | openBrace : Spelled .openBrace [0x7B]
  | closeBrace : Spelled .closeBrace [0x7D]
  | comma : Spelled .comma [0x2C]
  | colon : Spelled .colon [0x3A]
  | null : Spelled .null [0x6E, 0x75, 0x6C, 0x6C]
  | yes : Spelled (.bool true) [0x74, 0x72, 0x75, 0x65]
  | no : Spelled (.bool false) [0x66, 0x61, 0x6C, 0x73, 0x65]
  | number {n : Numeral} {literal : Bytes} (h : SpellsNumber n literal) :
      Spelled (.number n) literal
  | text {text : String} {body : Bytes} (h : SpellsText text.toList body) :
      Spelled (.string (some text)) (0x22 :: (body ++ [0x22]))
  | garbled {pieces : List Piece} {body : Bytes} (h : SpellsPieces pieces body)
      (hNone : ∀ text, ¬ SpellsText text body) : Spelled (.string none) (0x22 :: (body ++ [0x22]))

/-- The bytes hold these tokens in order, with any blanks around them. -/
inductive Spells : List (Token (Option String)) → Bytes → Prop
  | blanks {blanks : Bytes} (hBlanks : ∀ b ∈ blanks, isSpaceByte b = true) : Spells [] blanks
  | token {token : Token (Option String)} {tokens : List (Token (Option String))}
      {blanks literal rest : Bytes} (hBlanks : ∀ b ∈ blanks, isSpaceByte b = true)
      (hToken : token.Spelled literal) (h : Spells tokens rest) :
      Spells (token :: tokens) (blanks ++ (literal ++ rest))

/-- The bytes are a JSON text of the value, and of nothing else. Where a string of the value has no
text, the bytes need not be UTF-8. -/
def IsTextOf (value : Json (Option String)) (bytes : Bytes) : Prop :=
  Spells value.tokens bytes

end Gatehouse.Json
