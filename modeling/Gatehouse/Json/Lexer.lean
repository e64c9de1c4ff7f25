import Gatehouse.Bytes.Basic
import Gatehouse.Json.Basic

/-! Tokens of a JSON text given as bytes. A string literal must be closed, hold no control
character below the space and only known escapes; whether it denotes a text, having neither
lone surrogates nor bytes that are not UTF-8, is part of its token. -/
namespace Gatehouse.Json

/-- A part of a string literal: a byte that stands for itself, or a UTF-16 unit. -/
inductive Piece
  | byte (b : UInt8)
  | unit (n : Nat)

def isHighSurrogate (n : Nat) : Bool := 0xD800 ≤ n && n < 0xDC00

def isLowSurrogate (n : Nat) : Bool := 0xDC00 ≤ n && n < 0xE000

/-- The UTF-8 bytes of the pieces. A surrogate must be one of a pair. -/
def bytesOfPieces? : List Piece → Option Bytes
  | [] => some []
  | .byte b :: rest => (bytesOfPieces? rest).map (b :: ·)
  | .unit high :: .unit low :: rest =>
    if isHighSurrogate high then
      if isLowSurrogate low then
        let c := Char.ofNat (0x10000 + (high - 0xD800) * 0x400 + (low - 0xDC00))
        (bytesOfPieces? rest).map (String.utf8EncodeChar c ++ ·)
      else none
    else if isLowSurrogate high then none
    else (bytesOfPieces? (.unit low :: rest)).map (String.utf8EncodeChar (Char.ofNat high) ++ ·)
  | .unit n :: rest =>
    if isHighSurrogate n || isLowSurrogate n then none
    else (bytesOfPieces? rest).map (String.utf8EncodeChar (Char.ofNat n) ++ ·)

/-- The text that the pieces denote, if they denote one. -/
def textOfPieces? (pieces : List Piece) : Option String :=
  (bytesOfPieces? pieces).bind Bytes.toText?

def hexByteValue? (b : UInt8) : Option Nat :=
  if 0x30 ≤ b ∧ b ≤ 0x39 then some (b.toNat - 0x30)
  else if 0x61 ≤ b ∧ b ≤ 0x66 then some (b.toNat - 0x57)
  else if 0x41 ≤ b ∧ b ≤ 0x46 then some (b.toNat - 0x37)
  else none

/-- The byte that a one-letter escape stands for. -/
def escapedByte? (letter : UInt8) : Option UInt8 :=
  if letter = 0x22 ∨ letter = 0x5C ∨ letter = 0x2F then some letter
  else if letter = 0x62 then some 0x08
  else if letter = 0x66 then some 0x0C
  else if letter = 0x6E then some 0x0A
  else if letter = 0x72 then some 0x0D
  else if letter = 0x74 then some 0x09
  else none

/-- The pieces up to the closing quote, and what follows it. `read` holds the pieces before,
in reverse. -/
def readString? (read : List Piece) : Bytes → Option (List Piece × Bytes)
  | [] => none
  | 0x22 :: rest => some (read.reverse, rest)
  | 0x5C :: 0x75 :: a :: b :: c :: d :: rest => do
    let w ← hexByteValue? a
    let x ← hexByteValue? b
    let y ← hexByteValue? c
    let z ← hexByteValue? d
    readString? (.unit (((w * 16 + x) * 16 + y) * 16 + z) :: read) rest
  | 0x5C :: letter :: rest => do
    let byte ← escapedByte? letter
    readString? (.byte byte :: read) rest
  | b :: rest => if b < 0x20 ∨ b = 0x5C then none else readString? (.byte b :: read) rest

def isDigitByte (b : UInt8) : Bool :=
  0x30 ≤ b && b ≤ 0x39

def digitBytesValue (digits : Bytes) : Nat :=
  digits.foldl (fun n b => 10 * n + (b.toNat - 0x30)) 0

/-- A run of digits, one at least, and what follows it. -/
def readDigits? (bytes : Bytes) : Option (Bytes × Bytes) :=
  let digits := bytes.takeWhile isDigitByte
  if digits.isEmpty then none else some (digits, bytes.dropWhile isDigitByte)

/-- The digits after a point, if a point follows. -/
def readFraction? : Bytes → Option (Option Bytes × Bytes)
  | 0x2E :: rest => (readDigits? rest).map fun (digits, rest) => (some digits, rest)
  | bytes => some (none, bytes)

/-- The digits of an exponent after its optional sign. -/
def readSignedDigits? : Bytes → Option (Int × Bytes)
  | 0x2D :: rest =>
    (readDigits? rest).map fun (digits, rest) => (-(digitBytesValue digits : Int), rest)
  | 0x2B :: rest =>
    (readDigits? rest).map fun (digits, rest) => ((digitBytesValue digits : Int), rest)
  | bytes => (readDigits? bytes).map fun (digits, rest) => ((digitBytesValue digits : Int), rest)

/-- The exponent, if one follows. -/
def readExponent? : Bytes → Option (Option Int × Bytes)
  | b :: rest =>
    if b = 0x65 ∨ b = 0x45 then (readSignedDigits? rest).map fun (n, rest) => (some n, rest)
    else some (none, b :: rest)
  | [] => some (none, [])

/-- A number without its sign. The whole part has no leading zeros. -/
def readUnsigned? (negative : Bool) (bytes : Bytes) : Option (Numeral × Bytes) := do
  let (whole, bytes) ← readDigits? bytes
  if 1 < whole.length ∧ whole.head? = some 0x30 then none
  let (fraction, bytes) ← readFraction? bytes
  let (exponent, bytes) ← readExponent? bytes
  let value := digitBytesValue whole
  match fraction, exponent with
  | none, none =>
    if negative ∧ value = 0 then some (.real true 0 0, bytes)
    else some (.integer (if negative then -value else value), bytes)
  | _, _ =>
    let after := fraction.getD []
    some (.real negative (digitBytesValue (whole ++ after)) (exponent.getD 0 - after.length), bytes)

def readNumber? : Bytes → Option (Numeral × Bytes)
  | 0x2D :: rest => readUnsigned? true rest
  | bytes => readUnsigned? false bytes

/-- Space, tab, line feed and carriage return. -/
def isSpaceByte (b : UInt8) : Bool :=
  b = 0x20 || b = 0x09 || b = 0x0A || b = 0x0D

/-- The first token of a text that does not begin with a blank. -/
def readToken? : Bytes → Option (Token (Option String) × Bytes)
  | 0x5B :: rest => some (.openBracket, rest)
  | 0x5D :: rest => some (.closeBracket, rest)
  | 0x7B :: rest => some (.openBrace, rest)
  | 0x7D :: rest => some (.closeBrace, rest)
  | 0x2C :: rest => some (.comma, rest)
  | 0x3A :: rest => some (.colon, rest)
  | 0x22 :: rest =>
    (readString? [] rest).map fun (pieces, rest) => (.string (textOfPieces? pieces), rest)
  | 0x6E :: 0x75 :: 0x6C :: 0x6C :: rest => some (.null, rest)
  | 0x74 :: 0x72 :: 0x75 :: 0x65 :: rest => some (.bool true, rest)
  | 0x66 :: 0x61 :: 0x6C :: 0x73 :: 0x65 :: rest => some (.bool false, rest)
  | bytes => (readNumber? bytes).map fun (n, rest) => (.number n, rest)

/-- The tokens of a text, in reverse in front of those already read. Every step uses up a
byte, so `fuel` may be the number of bytes. -/
def readTokens? : Nat → Bytes → List (Token (Option String)) → Option (List (Token (Option String)))
  | _, [], read => some read.reverse
  | 0, _ :: _, _ => none
  | fuel + 1, b :: rest, read =>
    if isSpaceByte b then readTokens? fuel rest read
    else match readToken? (b :: rest) with
      | none => none
      | some (token, after) => readTokens? fuel after (token :: read)

/-- The tokens of a text. -/
def lex? (bytes : Bytes) : Option (List (Token (Option String))) :=
  readTokens? bytes.length bytes []

end Gatehouse.Json
