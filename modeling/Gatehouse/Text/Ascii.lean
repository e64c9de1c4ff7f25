/-! ASCII letters and printable text. Letter case is folded for the 26 ASCII letters
only: every other character, accented letters included, stands for itself. -/
namespace Gatehouse.Text

def lowerChar (c : Char) : Char :=
  if 'A' ≤ c ∧ c ≤ 'Z' then Char.ofNat (c.toNat + 32) else c

/-- ASCII lower case, character by character. -/
def lower (text : List Char) : List Char :=
  text.map lowerChar

def isDigit (c : Char) : Bool :=
  '0' ≤ c && c ≤ '9'

def isLetter (c : Char) : Bool :=
  ('A' ≤ c && c ≤ 'Z') || ('a' ≤ c && c ≤ 'z')

/-- A byte that may stand in a text taken from a header: space to tilde, or a tab. -/
def isReadableByte (b : UInt8) : Bool :=
  (0x20 ≤ b && b ≤ 0x7E) || b = 0x09

/-- The text of a header value. One byte outside printable ASCII makes the whole value
unreadable, so no part of such a value is ever looked at. -/
def readable? (bytes : List UInt8) : Option (List Char) :=
  if bytes.all isReadableByte then some (bytes.map fun b => Char.ofNat b.toNat) else none

theorem length_lower (text : List Char) : (lower text).length = text.length :=
  List.length_map lowerChar

end Gatehouse.Text
