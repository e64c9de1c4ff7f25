import Gatehouse.Deflate.Huffman

/-! Decompression of a raw DEFLATE stream. The stream is a row of blocks, the last one marked;
a block is stored bytes or a row of symbols under two prefix codes, one for literals and
lengths, one for distances. Whatever follows the last block is not looked at. -/
namespace Gatehouse.Deflate

/-- The shortest length of each length symbol from 257 on, and its number of extra bits. -/
def lengthTable : List (Nat × Nat) :=
  [(3, 0), (4, 0), (5, 0), (6, 0), (7, 0), (8, 0), (9, 0), (10, 0), (11, 1), (13, 1), (15, 1),
   (17, 1), (19, 2), (23, 2), (27, 2), (31, 2), (35, 3), (43, 3), (51, 3), (59, 3), (67, 4),
   (83, 4), (99, 4), (115, 4), (131, 5), (163, 5), (195, 5), (227, 5), (258, 0)]

/-- The shortest distance of each distance symbol, and its number of extra bits. -/
def distanceTable : List (Nat × Nat) :=
  [(1, 0), (2, 0), (3, 0), (4, 0), (5, 1), (7, 1), (9, 2), (13, 2), (17, 3), (25, 3), (33, 4),
   (49, 4), (65, 5), (97, 5), (129, 6), (193, 6), (257, 7), (385, 7), (513, 8), (769, 8),
   (1025, 9), (1537, 9), (2049, 10), (3073, 10), (4097, 11), (6145, 11), (8193, 12),
   (12289, 12), (16385, 13), (24577, 13)]

/-- A length or distance: the entry of its symbol plus its extra bits. -/
def readExtra? (table : List (Nat × Nat)) (symbol : Nat) (bits : Bits) : Option (Nat × Bits) := do
  let (least, extra) ← table[symbol]?
  let (more, rest) ← readNumber? extra bits
  some (least + more, rest)

/-- Appends `count` bytes, each one found `distance` bytes before the end. The output is kept
in reverse. A distance that reaches before the first byte is refused. -/
def copyBack? (distance : Nat) : Nat → Bytes → Option Bytes
  | 0, output => some output
  | count + 1, output => do
    let byte ← output[distance - 1]?
    copyBack? distance count (byte :: output)

/-- The symbols of a block up to its end mark. Each step uses up a bit, so `fuel` may be the
number of bits. -/
def readSymbols? (literals distances : PrefixCode) :
    Nat → Bits → Bytes → Option (Bits × Bytes)
  | 0, _, _ => none
  | fuel + 1, bits, output => do
    let (symbol, bits) ← literals.read? bits
    if symbol < 256 then
      readSymbols? literals distances fuel bits (UInt8.ofNat symbol :: output)
    else if symbol = 256 then some (bits, output)
    else
      let (length, bits) ← readExtra? lengthTable (symbol - 257) bits
      let (symbol, bits) ← distances.read? bits
      let (distance, bits) ← readExtra? distanceTable symbol bits
      let output ← copyBack? distance length output
      readSymbols? literals distances fuel bits output

/-- The codes of a block that names none. -/
def fixedLiterals? : Option PrefixCode :=
  PrefixCode.ofLengths? (List.replicate 144 8 ++ List.replicate 112 9 ++ List.replicate 24 7 ++
    List.replicate 8 8)

def fixedDistances? : Option PrefixCode :=
  PrefixCode.ofLengths? (List.replicate 32 5)

/-- What a symbol from 16 on repeats: the last length or 0, how often at least, and the number
of bits that tell how much more often. `lengths` is in reverse. -/
def repetition? (lengths : List Nat) (symbol : Nat) : Option (Nat × Nat × Nat) :=
  if symbol = 16 then lengths.head?.map fun last => (last, 3, 2)
  else if symbol = 17 then some (0, 3, 3)
  else if symbol = 18 then some (0, 11, 7)
  else none

/-- Word lengths written as symbols: a length, or a repetition of the last length or of 0.
`lengths` is in reverse; `missing` lengths are still to come. -/
def readLengths? (code : PrefixCode) : Nat → Nat → List Nat → Bits → Option (List Nat × Bits)
  | _, 0, lengths, bits => some (lengths.reverse, bits)
  | 0, _ + 1, _, _ => none
  | fuel + 1, missing + 1, lengths, bits => do
    let (symbol, bits) ← code.read? bits
    if symbol < 16 then readLengths? code fuel missing (symbol :: lengths) bits
    else
      let (value, least, extra) ← repetition? lengths symbol
      let (more, bits) ← readNumber? extra bits
      let count := least + more
      if count ≤ missing + 1 then
        readLengths? code fuel (missing + 1 - count) (List.replicate count value ++ lengths) bits
      else none

/-- The order in which the lengths of the code for lengths are written. -/
def lengthOrder : List Nat :=
  [16, 17, 18, 0, 8, 7, 9, 6, 10, 5, 11, 4, 12, 3, 13, 2, 14, 1, 15]

/-- `count` numbers of three bits. -/
def readTriples? : Nat → Bits → Option (List Nat × Bits)
  | 0, bits => some ([], bits)
  | count + 1, bits => do
    let (first, bits) ← readNumber? 3 bits
    let (more, bits) ← readTriples? count bits
    some (first :: more, bits)

/-- The two codes in the head of a block that names its own. -/
def readCodes? (bits : Bits) : Option (PrefixCode × PrefixCode × Bits) := do
  let (literals, bits) ← readNumber? 5 bits
  let (distances, bits) ← readNumber? 5 bits
  let (given, bits) ← readNumber? 4 bits
  if 29 < literals ∨ 29 < distances then none
  let (written, bits) ← readTriples? (given + 4) bits
  let lengths := (List.range 19).map fun symbol =>
    ((lengthOrder.zip written).lookup symbol).getD 0
  let code ← PrefixCode.ofLengths? lengths
  let (lengths, bits) ← readLengths? code bits.length (literals + 257 + distances + 1) [] bits
  let literalCode ← PrefixCode.ofLengths? (lengths.take (literals + 257))
  let distanceCode ← PrefixCode.ofLengths? (lengths.drop (literals + 257))
  some (literalCode, distanceCode, bits)

/-- `count` whole bytes, in reverse in front of the output. -/
def readStored? : Nat → Bits → Bytes → Option (Bits × Bytes)
  | 0, bits, output => some (bits, output)
  | count + 1, bits, output => do
    let (byte, bits) ← readNumber? 8 bits
    readStored? count bits (UInt8.ofNat byte :: output)

/-- The body of a block of the given kind. -/
def readBlock? (kind : Nat) (bits : Bits) (output : Bytes) : Option (Bits × Bytes) := do
  if kind = 0 then
    let (length, bits) ← readNumber? 16 (bits.drop (bits.length % 8))
    let (check, bits) ← readNumber? 16 bits
    if length + check = 65535 then readStored? length bits output else none
  else if kind = 1 then
    readSymbols? (← fixedLiterals?) (← fixedDistances?) bits.length bits output
  else if kind = 2 then
    let (literals, distances, bits) ← readCodes? bits
    readSymbols? literals distances bits.length bits output
  else none

/-- Blocks up to the last one. A block has at least three bits. -/
def readBlocks? : Nat → Bits → Bytes → Option Bytes
  | 0, _, _ => none
  | fuel + 1, bits, output => do
    let (final, bits) ← readNumber? 1 bits
    let (kind, bits) ← readNumber? 2 bits
    let (bits, output) ← readBlock? kind bits output
    if final = 1 then some output.reverse else readBlocks? fuel bits output

/-- The decompressed bytes; a stream that is damaged or ends early has none. -/
def inflate? (bytes : Bytes) : Option Bytes :=
  let bits := bitsOf bytes
  readBlocks? bits.length bits []

end Gatehouse.Deflate
