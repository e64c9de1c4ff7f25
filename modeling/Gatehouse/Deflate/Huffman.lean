import Gatehouse.Bytes.Basic

/-! Prefix codes in canonical form: a code is given by the length of each symbol's word, and
among words of one length the smaller symbol has the smaller word. Words are read from a bit
stream, first bit first. -/
namespace Gatehouse.Deflate

/-- Bits in the order in which they are read. -/
abbrev Bits := List Bool

/-- The bits of a byte string, the low bit of each byte first. -/
def bitsOf (bytes : Bytes) : Bits :=
  bytes.flatMap fun b => (List.range 8).map fun i => b.toNat.testBit i

/-- A number of `count` bits, low bit first, and the bits after it. -/
def readNumber? : Nat → Bits → Option (Nat × Bits)
  | 0, bits => some (0, bits)
  | _ + 1, [] => none
  | count + 1, bit :: bits => do
    let (high, rest) ← readNumber? count bits
    some (2 * high + bit.toNat, rest)

theorem length_of_readNumber? {count n : Nat} {bits rest : Bits}
    (h : readNumber? count bits = some (n, rest)) : bits.length = count + rest.length := by
  induction count generalizing bits n with
  | zero => simp_all [readNumber?]
  | succ count ih =>
    cases bits with
    | nil => simp [readNumber?] at h
    | cons bit bits =>
      simp only [readNumber?, Option.bind_eq_bind, Option.bind_eq_some_iff] at h
      obtain ⟨⟨high, tail⟩, hr, he⟩ := h
      simp only [Option.some.injEq, Prod.mk.injEq] at he
      obtain ⟨_, rfl⟩ := he
      simp [ih hr]
      omega

/-- A prefix code: how many words there are of each length from 1 to 15, and the symbols in
the order of their words. -/
structure PrefixCode where
  counts : List Nat
  symbols : Array Nat

/-- The symbols whose words have the given length, in ascending order. -/
def symbolsOfLength (lengths : List Nat) (length : Nat) : List Nat :=
  (lengths.zipIdx.filter fun entry => entry.1 == length).map fun entry => entry.2

/-- The part of the code space that words take, in units of one word of 15 bits. The counts
are those of the lengths from 15 down. -/
def spaceTaken : List Nat → Nat
  | [] => 0
  | count :: shorter => count + 2 * spaceTaken shorter

/-- The code with the given word lengths, in which 0 means that a symbol has no word. Words
must fill the code space exactly, except that a code may have no word, or a single one of one
bit. -/
def PrefixCode.ofLengths? (lengths : List Nat) : Option PrefixCode :=
  let groups := (List.range 15).map fun i => symbolsOfLength lengths (i + 1)
  let counts := groups.map List.length
  let symbols := groups.flatten
  if spaceTaken counts.reverse == 32768 || (symbols.length ≤ 1 && symbols == groups.headD []) then
    some ⟨counts, symbols.toArray⟩
  else none

/-- Walks the lengths from short to long. `first` is the smallest word of the length at hand,
`index` the number of words shorter than it, and `word` the bits read so far. -/
def PrefixCode.readFrom? (symbols : Array Nat) :
    List Nat → (word first index : Nat) → Bits → Option (Nat × Bits)
  | [], _, _, _, _ => none
  | _ :: _, _, _, _, [] => none
  | count :: counts, word, first, index, bit :: bits =>
    let word := 2 * word + bit.toNat
    if word < first + count then
      (symbols[index + (word - first)]?).map fun symbol => (symbol, bits)
    else readFrom? symbols counts word (2 * (first + count)) (index + count) bits

/-- The symbol whose word the bits begin with, and the bits after it. -/
def PrefixCode.read? (code : PrefixCode) (bits : Bits) : Option (Nat × Bits) :=
  readFrom? code.symbols code.counts 0 0 0 bits

theorem PrefixCode.length_lt_of_readFrom? {symbols : Array Nat} {counts : List Nat}
    {word first index symbol : Nat} {bits rest : Bits}
    (h : readFrom? symbols counts word first index bits = some (symbol, rest)) :
    rest.length < bits.length := by
  fun_induction readFrom? symbols counts word first index bits with
  | case1 => simp at h
  | case2 => simp at h
  | case3 =>
    obtain ⟨_, _, he⟩ := Option.map_eq_some_iff.1 h
    simp only [Prod.mk.injEq] at he
    obtain ⟨_, rfl⟩ := he
    simp
  | case4 _ _ _ _ _ _ _ _ _ ih =>
    have := ih h
    simp only [List.length_cons]
    omega

theorem PrefixCode.length_lt_of_read? {code : PrefixCode} {symbol : Nat} {bits rest : Bits}
    (h : code.read? bits = some (symbol, rest)) : rest.length < bits.length :=
  length_lt_of_readFrom? h

end Gatehouse.Deflate
