import Gatehouse.Bytes.Hex
import Gatehouse.Text.Integer
import Gatehouse.Text.Pieces

/-! Network addresses. Version 4 is written as four decimal numbers, version 6 as groups of
hexadecimal digits in which the first longest run of two or more zero groups is left out. -/
namespace Gatehouse

/-- An address without port and zone. -/
inductive Address
  | v4 (bytes : List Nat)
  | v6 (groups : List Nat)
  deriving DecidableEq, Repr

namespace Address

/-- A decimal number below 256 without leading zeros. -/
def readByte? (text : List Char) : Option Nat := do
  let n ← Text.readDigits? text
  if text.length ≤ 3 ∧ n < 256 ∧ (text.head? = some '0' → text.length = 1) then some n else none

def readV4? (text : List Char) : Option (List Nat) := do
  let bytes ← (text.splitOnP (· == '.')).mapM readByte?
  if bytes.length = 4 then some bytes else none

/-- Up to four hexadecimal digits. -/
def readGroup? (text : List Char) : Option Nat := do
  let digits ← text.mapM Bytes.hexValue?
  if 1 ≤ text.length ∧ text.length ≤ 4 then
    some (digits.foldl (fun n d => 16 * n + d) 0)
  else none

/-- The two groups of a version 4 address. -/
def groupsOfV4 : List Nat → List Nat
  | [a, b, c, d] => [256 * a + b, 256 * c + d]
  | _ => []

/-- Groups between colons; the last piece may be a version 4 address. -/
def readPieces? : List (List Char) → Option (List Nat)
  | [] => some []
  | [piece] =>
    if piece.contains '.' then (readV4? piece).map groupsOfV4
    else (readGroup? piece).map fun group => [group]
  | piece :: rest => do
    let group ← readGroup? piece
    let groups ← readPieces? rest
    some (group :: groups)

def readGroups? (text : List Char) : Option (List Nat) :=
  if text.isEmpty then some [] else readPieces? (text.splitOnP (· == ':'))

/-- The texts around the first double colon. -/
def splitAtGap : List Char → Option (List Char × List Char)
  | ':' :: ':' :: rest => some ([], rest)
  | c :: rest => (splitAtGap rest).map fun (left, right) => (c :: left, right)
  | [] => none

def readV6? (text : List Char) : Option (List Nat) := do
  let groups ← match splitAtGap text with
    | none => readGroups? text
    | some (left, right) => do
      let head ← readGroups? left
      let tail ← readGroups? right
      if head.length + tail.length < 8 ∧ !left.contains '.' then
        some (head ++ List.replicate (8 - head.length - tail.length) 0 ++ tail)
      else none
  if groups.length = 8 then some groups else none

/-- The address of a text that also names a port. A zone is dropped. -/
def ofSocketText? (text : String) : Option Address :=
  match text.toList with
  | '[' :: rest => do
    let (literal, _) ← Text.splitOnce ']' rest
    (readV6? (Text.before '%' literal)).map .v6
  | chars => do
    let (literal, _) ← Text.splitOnce ':' chars
    (readV4? literal).map .v4

def v4Text (bytes : List Nat) : List Char :=
  ['.'].intercalate (bytes.map (Nat.toDigits 10))

def groupsText (groups : List Nat) : List Char :=
  [':'].intercalate (groups.map (Nat.toDigits 16))

/-- The length of the run of zero groups at the start. -/
def zeros (groups : List Nat) : Nat :=
  (groups.takeWhile (· == 0)).length

/-- The start and the length of the first longest run of zero groups, from group `index` on. -/
def longestZeros (index : Nat) : List Nat → Nat × Nat
  | [] => (index, 0)
  | group :: rest =>
    let here := zeros (group :: rest)
    let later := longestZeros (index + 1) rest
    if later.2 ≤ here then (index, here) else later

def v6Text (groups : List Nat) : List Char :=
  match groups with
  | [0, 0, 0, 0, 0, 0xFFFF, high, low] =>
    "::ffff:".toList ++ v4Text [high / 256, high % 256, low / 256, low % 256]
  | _ =>
    let (start, length) := longestZeros 0 groups
    if length < 2 then groupsText groups
    else groupsText (groups.take start) ++ ':' :: ':' :: groupsText (groups.drop (start + length))

def toText : Address → List Char
  | .v4 bytes => v4Text bytes
  | .v6 groups => v6Text groups

end Address

end Gatehouse
