import Gatehouse.Bytes.Basic

/-! The block cipher AES with keys of 16 or 32 bytes. A block is four columns of four bytes;
a round substitutes every byte, rotates the rows, mixes each column and adds a round key. The
inverse cipher undoes the rounds in the opposite order. -/
namespace Gatehouse.Aes

/-- The substitution table of FIPS 197. -/
def substitution : Array UInt8 :=
  #[0x63, 0x7c, 0x77, 0x7b, 0xf2, 0x6b, 0x6f, 0xc5, 0x30, 0x01, 0x67, 0x2b, 0xfe, 0xd7, 0xab, 0x76,
   0xca, 0x82, 0xc9, 0x7d, 0xfa, 0x59, 0x47, 0xf0, 0xad, 0xd4, 0xa2, 0xaf, 0x9c, 0xa4, 0x72, 0xc0,
   0xb7, 0xfd, 0x93, 0x26, 0x36, 0x3f, 0xf7, 0xcc, 0x34, 0xa5, 0xe5, 0xf1, 0x71, 0xd8, 0x31, 0x15,
   0x04, 0xc7, 0x23, 0xc3, 0x18, 0x96, 0x05, 0x9a, 0x07, 0x12, 0x80, 0xe2, 0xeb, 0x27, 0xb2, 0x75,
   0x09, 0x83, 0x2c, 0x1a, 0x1b, 0x6e, 0x5a, 0xa0, 0x52, 0x3b, 0xd6, 0xb3, 0x29, 0xe3, 0x2f, 0x84,
   0x53, 0xd1, 0x00, 0xed, 0x20, 0xfc, 0xb1, 0x5b, 0x6a, 0xcb, 0xbe, 0x39, 0x4a, 0x4c, 0x58, 0xcf,
   0xd0, 0xef, 0xaa, 0xfb, 0x43, 0x4d, 0x33, 0x85, 0x45, 0xf9, 0x02, 0x7f, 0x50, 0x3c, 0x9f, 0xa8,
   0x51, 0xa3, 0x40, 0x8f, 0x92, 0x9d, 0x38, 0xf5, 0xbc, 0xb6, 0xda, 0x21, 0x10, 0xff, 0xf3, 0xd2,
   0xcd, 0x0c, 0x13, 0xec, 0x5f, 0x97, 0x44, 0x17, 0xc4, 0xa7, 0x7e, 0x3d, 0x64, 0x5d, 0x19, 0x73,
   0x60, 0x81, 0x4f, 0xdc, 0x22, 0x2a, 0x90, 0x88, 0x46, 0xee, 0xb8, 0x14, 0xde, 0x5e, 0x0b, 0xdb,
   0xe0, 0x32, 0x3a, 0x0a, 0x49, 0x06, 0x24, 0x5c, 0xc2, 0xd3, 0xac, 0x62, 0x91, 0x95, 0xe4, 0x79,
   0xe7, 0xc8, 0x37, 0x6d, 0x8d, 0xd5, 0x4e, 0xa9, 0x6c, 0x56, 0xf4, 0xea, 0x65, 0x7a, 0xae, 0x08,
   0xba, 0x78, 0x25, 0x2e, 0x1c, 0xa6, 0xb4, 0xc6, 0xe8, 0xdd, 0x74, 0x1f, 0x4b, 0xbd, 0x8b, 0x8a,
   0x70, 0x3e, 0xb5, 0x66, 0x48, 0x03, 0xf6, 0x0e, 0x61, 0x35, 0x57, 0xb9, 0x86, 0xc1, 0x1d, 0x9e,
   0xe1, 0xf8, 0x98, 0x11, 0x69, 0xd9, 0x8e, 0x94, 0x9b, 0x1e, 0x87, 0xe9, 0xce, 0x55, 0x28, 0xdf,
   0x8c, 0xa1, 0x89, 0x0d, 0xbf, 0xe6, 0x42, 0x68, 0x41, 0x99, 0x2d, 0x0f, 0xb0, 0x54, 0xbb, 0x16]

/-- The table that undoes the substitution. -/
def inverseSubstitution : Array UInt8 :=
  #[0x52, 0x09, 0x6a, 0xd5, 0x30, 0x36, 0xa5, 0x38, 0xbf, 0x40, 0xa3, 0x9e, 0x81, 0xf3, 0xd7, 0xfb,
   0x7c, 0xe3, 0x39, 0x82, 0x9b, 0x2f, 0xff, 0x87, 0x34, 0x8e, 0x43, 0x44, 0xc4, 0xde, 0xe9, 0xcb,
   0x54, 0x7b, 0x94, 0x32, 0xa6, 0xc2, 0x23, 0x3d, 0xee, 0x4c, 0x95, 0x0b, 0x42, 0xfa, 0xc3, 0x4e,
   0x08, 0x2e, 0xa1, 0x66, 0x28, 0xd9, 0x24, 0xb2, 0x76, 0x5b, 0xa2, 0x49, 0x6d, 0x8b, 0xd1, 0x25,
   0x72, 0xf8, 0xf6, 0x64, 0x86, 0x68, 0x98, 0x16, 0xd4, 0xa4, 0x5c, 0xcc, 0x5d, 0x65, 0xb6, 0x92,
   0x6c, 0x70, 0x48, 0x50, 0xfd, 0xed, 0xb9, 0xda, 0x5e, 0x15, 0x46, 0x57, 0xa7, 0x8d, 0x9d, 0x84,
   0x90, 0xd8, 0xab, 0x00, 0x8c, 0xbc, 0xd3, 0x0a, 0xf7, 0xe4, 0x58, 0x05, 0xb8, 0xb3, 0x45, 0x06,
   0xd0, 0x2c, 0x1e, 0x8f, 0xca, 0x3f, 0x0f, 0x02, 0xc1, 0xaf, 0xbd, 0x03, 0x01, 0x13, 0x8a, 0x6b,
   0x3a, 0x91, 0x11, 0x41, 0x4f, 0x67, 0xdc, 0xea, 0x97, 0xf2, 0xcf, 0xce, 0xf0, 0xb4, 0xe6, 0x73,
   0x96, 0xac, 0x74, 0x22, 0xe7, 0xad, 0x35, 0x85, 0xe2, 0xf9, 0x37, 0xe8, 0x1c, 0x75, 0xdf, 0x6e,
   0x47, 0xf1, 0x1a, 0x71, 0x1d, 0x29, 0xc5, 0x89, 0x6f, 0xb7, 0x62, 0x0e, 0xaa, 0x18, 0xbe, 0x1b,
   0xfc, 0x56, 0x3e, 0x4b, 0xc6, 0xd2, 0x79, 0x20, 0x9a, 0xdb, 0xc0, 0xfe, 0x78, 0xcd, 0x5a, 0xf4,
   0x1f, 0xdd, 0xa8, 0x33, 0x88, 0x07, 0xc7, 0x31, 0xb1, 0x12, 0x10, 0x59, 0x27, 0x80, 0xec, 0x5f,
   0x60, 0x51, 0x7f, 0xa9, 0x19, 0xb5, 0x4a, 0x0d, 0x2d, 0xe5, 0x7a, 0x9f, 0x93, 0xc9, 0x9c, 0xef,
   0xa0, 0xe0, 0x3b, 0x4d, 0xae, 0x2a, 0xf5, 0xb0, 0xc8, 0xeb, 0xbb, 0x3c, 0x83, 0x53, 0x99, 0x61,
   0x17, 0x2b, 0x04, 0x7e, 0xba, 0x77, 0xd6, 0x26, 0xe1, 0x69, 0x14, 0x63, 0x55, 0x21, 0x0c, 0x7d]

def substitute (b : UInt8) : UInt8 :=
  substitution.getD b.toNat 0

def unsubstitute (b : UInt8) : UInt8 :=
  inverseSubstitution.getD b.toNat 0

/-- Multiplication by x in the field of the polynomial x^8 + x^4 + x^3 + x + 1. -/
def double (b : UInt8) : UInt8 :=
  if b < 0x80 then b <<< 1 else (b <<< 1) ^^^ 0x1b

structure Column where
  p : UInt8
  q : UInt8
  r : UInt8
  s : UInt8
  deriving DecidableEq

namespace Column

def map (f : UInt8 → UInt8) (c : Column) : Column :=
  ⟨f c.p, f c.q, f c.r, f c.s⟩

def add (c d : Column) : Column :=
  ⟨c.p ^^^ d.p, c.q ^^^ d.q, c.r ^^^ d.r, c.s ^^^ d.s⟩

/-- The product with 02, 03, 01, 01 and its rotations. -/
def mix (c : Column) : Column :=
  let entry := fun w x y z => double w ^^^ (double x ^^^ x) ^^^ y ^^^ z
  ⟨entry c.p c.q c.r c.s, entry c.q c.r c.s c.p, entry c.r c.s c.p c.q, entry c.s c.p c.q c.r⟩

/-- The product with 0e, 0b, 0d, 09 and its rotations. -/
def unmix (c : Column) : Column :=
  let times := fun (b : UInt8) =>
    let two := double b
    let four := double two
    let eight := double four
    (eight ^^^ four ^^^ two, eight ^^^ two ^^^ b, eight ^^^ four ^^^ b, eight ^^^ b)
  let entry := fun w x y z => (times w).1 ^^^ (times x).2.1 ^^^ (times y).2.2.1 ^^^ (times z).2.2.2
  ⟨entry c.p c.q c.r c.s, entry c.q c.r c.s c.p, entry c.r c.s c.p c.q, entry c.s c.p c.q c.r⟩

/-- The column with its bytes moved up by one, the first to the end. -/
def rotate (c : Column) : Column :=
  ⟨c.q, c.r, c.s, c.p⟩

end Column

structure Block where
  c0 : Column
  c1 : Column
  c2 : Column
  c3 : Column
  deriving DecidableEq

namespace Block

def map (f : Column → Column) (b : Block) : Block :=
  ⟨f b.c0, f b.c1, f b.c2, f b.c3⟩

def add (a b : Block) : Block :=
  ⟨a.c0.add b.c0, a.c1.add b.c1, a.c2.add b.c2, a.c3.add b.c3⟩

/-- Row number i rotated by i places to the left. -/
def shiftRows (b : Block) : Block :=
  ⟨⟨b.c0.p, b.c1.q, b.c2.r, b.c3.s⟩, ⟨b.c1.p, b.c2.q, b.c3.r, b.c0.s⟩,
   ⟨b.c2.p, b.c3.q, b.c0.r, b.c1.s⟩, ⟨b.c3.p, b.c0.q, b.c1.r, b.c2.s⟩⟩

/-- Row number i rotated by i places to the right. -/
def unshiftRows (b : Block) : Block :=
  ⟨⟨b.c0.p, b.c3.q, b.c2.r, b.c1.s⟩, ⟨b.c1.p, b.c0.q, b.c3.r, b.c2.s⟩,
   ⟨b.c2.p, b.c1.q, b.c0.r, b.c3.s⟩, ⟨b.c3.p, b.c2.q, b.c1.r, b.c0.s⟩⟩

def ofBytes (bytes : Bytes) : Block :=
  let b := fun i => bytes.getD i 0
  ⟨⟨b 0, b 1, b 2, b 3⟩, ⟨b 4, b 5, b 6, b 7⟩, ⟨b 8, b 9, b 10, b 11⟩, ⟨b 12, b 13, b 14, b 15⟩⟩

def toBytes (b : Block) : Bytes :=
  [b.c0, b.c1, b.c2, b.c3].flatMap fun c => [c.p, c.q, c.r, c.s]

theorem unshiftRows_shiftRows (b : Block) : b.shiftRows.unshiftRows = b := rfl

end Block

/-- The columns of a key, four bytes each. -/
def keyColumns (key : Bytes) : List Column :=
  (key.blocks 4).map fun bytes =>
    ⟨bytes.getD 0 0, bytes.getD 1 0, bytes.getD 2 0, bytes.getD 3 0⟩

/-- The next `count` columns of the key schedule. `window` holds the last columns, as many as
the key has, `index` the number of the next column, and `constant` the next round constant. -/
def expand (size : Nat) : Nat → Nat → UInt8 → List Column → List Column
  | 0, _, _, _ => []
  | count + 1, index, constant, window =>
    let last := window.getLastD ⟨0, 0, 0, 0⟩
    let first := window.headD ⟨0, 0, 0, 0⟩
    let fresh := index % size = 0
    let mask :=
      if fresh then (last.rotate.map substitute).add ⟨constant, 0, 0, 0⟩
      else if 6 < size ∧ index % size = 4 then last.map substitute
      else last
    let column := first.add mask
    column :: expand size count (index + 1) (if fresh then double constant else constant)
      (window.tail ++ [column])

/-- Groups of four columns, one for each key addition. -/
def groups : List Column → List Block
  | c0 :: c1 :: c2 :: c3 :: rest => ⟨c0, c1, c2, c3⟩ :: groups rest
  | _ => []

/-- The round keys: 11 for a key of 16 bytes, 15 for a key of 32 bytes. -/
def roundKeys (key : Bytes) : List Block :=
  let columns := keyColumns key
  let size := columns.length
  groups (columns ++ expand size (4 * (size + 7) - size) size 1 columns)

/-- The rounds after the first key addition. The last one does not mix columns. -/
def rounds : List Block → Block → Block
  | [], state => state
  | [key], state => ((state.map (·.map substitute)).shiftRows).add key
  | key :: keys, state =>
    rounds keys ((((state.map (·.map substitute)).shiftRows).map Column.mix).add key)

/-- One block under the given round keys. -/
def encrypt (keys : List Block) (block : Block) : Block :=
  match keys with
  | [] => block
  | key :: keys => rounds keys (block.add key)

/-- The inverse rounds, with the round keys in reverse order. -/
def inverseRounds : List Block → Block → Block
  | [], state => state
  | [key], state => ((state.unshiftRows).map (·.map unsubstitute)).add key
  | key :: keys, state =>
    inverseRounds keys ((((state.unshiftRows).map (·.map unsubstitute)).add key).map Column.unmix)

/-- Undoes `encrypt` under the same round keys. -/
def decrypt (keys : List Block) (block : Block) : Block :=
  match keys.reverse with
  | [] => block
  | key :: keys => inverseRounds keys (block.add key)

end Gatehouse.Aes
