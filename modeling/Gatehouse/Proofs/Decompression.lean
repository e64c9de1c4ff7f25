import Gatehouse.Deflate.Inflate

/-! Decompression stops by itself. The readers of a stream count their steps down from the
number of bits, and the count never decides anything: every symbol, every written length and
every block uses up a bit at least, so that a stream is refused for damage only and never
because the steps ran out. This is shown as a congruence: two supplies of steps that both cover
the bits at hand give the same result. -/
namespace Gatehouse.Deflate

variable {literals distances code : PrefixCode} {bits rest : Bits} {output written : Bytes}

/-- No word is found where there are no bits. -/
@[simp]
theorem PrefixCode.read?_nil : code.read? [] = none := by
  cases h : code.read? [] with
  | none => rfl
  | some found => exact absurd (PrefixCode.length_lt_of_read? h) (by simp)

/-- A length or a distance may have no extra bits, so here the bits need not get fewer. -/
theorem length_le_of_readExtra? {table : List (Nat × Nat)} {symbol n : Nat}
    (h : readExtra? table symbol bits = some (n, rest)) : rest.length ≤ bits.length := by
  simp only [readExtra?, Option.bind_eq_bind, Option.bind_eq_some_iff, Prod.exists,
    Option.some.injEq, Prod.mk.injEq] at h
  obtain ⟨least, extra, -, more, tail, hMore, -, rfl⟩ := h
  have := length_of_readNumber? hMore
  omega

/-! ## Symbols -/

@[simp]
theorem readSymbols?_nil {fuel : Nat} : readSymbols? literals distances fuel [] output = none := by
  cases fuel <;> simp [readSymbols?]

/-- Symbols that end well leave fewer bits than there were: the end mark is a word too. -/
theorem length_lt_of_readSymbols? {fuel : Nat}
    (h : readSymbols? literals distances fuel bits output = some (rest, written)) :
    rest.length < bits.length := by
  induction fuel generalizing bits output with
  | zero => simp [readSymbols?] at h
  | succ fuel ih =>
    simp only [readSymbols?, Option.bind_eq_bind, Option.bind_eq_some_iff, Prod.exists] at h
    obtain ⟨symbol, tail, hWord, h⟩ := h
    have hTail := PrefixCode.length_lt_of_read? hWord
    split at h
    · have := ih h
      omega
    split at h
    · obtain ⟨rfl, rfl⟩ := Prod.mk.inj (Option.some.inj h)
      exact hTail
    · simp only [Option.bind_eq_some_iff, Prod.exists] at h
      obtain ⟨length, afterLength, hLength, mark, afterMark, hMark, distance, afterDistance,
        hDistance, copied, -, h⟩ := h
      have := length_le_of_readExtra? hLength
      have := PrefixCode.length_lt_of_read? hMark
      have := length_le_of_readExtra? hDistance
      have := ih h
      omega

/-- The number of steps given to the symbols of a block does not matter once it covers the
bits. -/
theorem readSymbols?_congr {fuel other : Nat} (h : bits.length ≤ fuel)
    (h' : bits.length ≤ other) :
    readSymbols? literals distances fuel bits output =
      readSymbols? literals distances other bits output := by
  induction fuel generalizing other bits output with
  | zero => simp [List.eq_nil_of_length_eq_zero (Nat.le_zero.1 h)]
  | succ fuel ih =>
    cases other with
    | zero => simp [List.eq_nil_of_length_eq_zero (Nat.le_zero.1 h')]
    | succ other =>
      simp only [readSymbols?, Option.bind_eq_bind]
      refine Option.bind_congr fun (symbol, tail) hWord => ?_
      have hTail : tail.length < bits.length := PrefixCode.length_lt_of_read? hWord
      dsimp only
      split
      · exact ih (by omega) (by omega)
      split
      · rfl
      · refine Option.bind_congr fun (length, afterLength) hLength => ?_
        refine Option.bind_congr fun (mark, afterMark) hMark => ?_
        refine Option.bind_congr fun (distance, afterDistance) hDistance => ?_
        refine Option.bind_congr fun copied _ => ?_
        have hAfter : afterDistance.length < tail.length := calc
          afterDistance.length ≤ afterMark.length := length_le_of_readExtra? hDistance
          _ < afterLength.length := PrefixCode.length_lt_of_read? hMark
          _ ≤ tail.length := length_le_of_readExtra? hLength
        exact ih (by dsimp only; omega) (by dsimp only; omega)

/-! ## The codes of a block -/

theorem length_le_of_readTriples? {count : Nat} {numbers : List Nat}
    (h : readTriples? count bits = some (numbers, rest)) : rest.length ≤ bits.length := by
  induction count generalizing bits numbers with
  | zero =>
    obtain ⟨-, rfl⟩ := Prod.mk.inj (Option.some.inj h)
    exact Nat.le_refl _
  | succ count ih =>
    simp only [readTriples?, Option.bind_eq_bind, Option.bind_eq_some_iff, Prod.exists,
      Option.some.injEq, Prod.mk.injEq] at h
    obtain ⟨first, tail, hFirst, more, after, hMore, -, rfl⟩ := h
    have := length_of_readNumber? hFirst
    have := ih hMore
    omega

/-- No bits may be used up here, where no length is missing. -/
theorem length_le_of_readLengths? {fuel missing : Nat} {lengths found : List Nat}
    (h : readLengths? code fuel missing lengths bits = some (found, rest)) :
    rest.length ≤ bits.length := by
  fun_induction readLengths? code fuel missing lengths bits with
  | case1 fuel lengths bits =>
    obtain ⟨-, rfl⟩ := Prod.mk.inj (Option.some.inj h)
    exact Nat.le_refl _
  | case2 => simp at h
  | case3 fuel missing lengths bits ihLength ihRepeated =>
    simp only [Option.bind_eq_bind, Option.bind_eq_some_iff, Prod.exists] at h
    obtain ⟨symbol, tail, hWord, h⟩ := h
    have := PrefixCode.length_lt_of_read? hWord
    split at h
    · have := ihLength _ _ h
      omega
    · simp only [Option.bind_eq_some_iff, Prod.exists] at h
      obtain ⟨value, least, extra, -, more, after, hMore, h⟩ := h
      have := length_of_readNumber? hMore
      split at h
      · have := ihRepeated _ _ _ _ h
        omega
      · simp at h

@[simp]
theorem readLengths?_nil {fuel missing : Nat} {lengths : List Nat} :
    readLengths? code fuel missing lengths [] =
      if missing = 0 then some (lengths.reverse, []) else none := by
  cases missing <;> cases fuel <;> simp [readLengths?]

/-- The number of steps given to the written lengths does not matter once it covers the
bits. -/
theorem readLengths?_congr {fuel other missing : Nat} {lengths : List Nat}
    (h : bits.length ≤ fuel) (h' : bits.length ≤ other) :
    readLengths? code fuel missing lengths bits = readLengths? code other missing lengths bits := by
  induction fuel generalizing other missing lengths bits with
  | zero => simp [List.eq_nil_of_length_eq_zero (Nat.le_zero.1 h)]
  | succ fuel ih =>
    cases other with
    | zero => simp [List.eq_nil_of_length_eq_zero (Nat.le_zero.1 h')]
    | succ other =>
      cases missing with
      | zero => simp only [readLengths?]
      | succ missing =>
        simp only [readLengths?, Option.bind_eq_bind]
        refine Option.bind_congr fun (symbol, tail) hWord => ?_
        have hTail : tail.length < bits.length := PrefixCode.length_lt_of_read? hWord
        dsimp only
        split
        · exact ih (by omega) (by omega)
        · refine Option.bind_congr fun (value, least, extra) _ => ?_
          refine Option.bind_congr fun (more, after) hMore => ?_
          have hAfter : tail.length = extra + after.length := length_of_readNumber? hMore
          dsimp only
          split
          · exact ih (by omega) (by omega)
          · rfl

theorem length_le_of_readCodes? (h : readCodes? bits = some (literals, distances, rest)) :
    rest.length ≤ bits.length := by
  simp only [readCodes?, Option.bind_eq_bind, Option.bind_eq_some_iff, Prod.exists] at h
  obtain ⟨literalCount, bits₁, h₁, distanceCount, bits₂, h₂, given, bits₃, h₃, h⟩ := h
  have := length_of_readNumber? h₁
  have := length_of_readNumber? h₂
  have := length_of_readNumber? h₃
  split at h
  · simp at h
  · simp only [Option.bind_eq_some_iff, Prod.exists, Option.some.injEq, Prod.mk.injEq] at h
    obtain ⟨triples, bits₄, h₄, lengthCode, -, lengths, bits₅, h₅, literalCode, -,
      distanceCode, -, -, -, rfl⟩ := h
    have := length_le_of_readTriples? h₄
    have := length_le_of_readLengths? h₅
    omega

/-! ## Blocks -/

theorem length_le_of_readStored? {count : Nat}
    (h : readStored? count bits output = some (rest, written)) : rest.length ≤ bits.length := by
  induction count generalizing bits output with
  | zero =>
    obtain ⟨rfl, -⟩ := Prod.mk.inj (Option.some.inj h)
    exact Nat.le_refl _
  | succ count ih =>
    simp only [readStored?, Option.bind_eq_bind, Option.bind_eq_some_iff, Prod.exists] at h
    obtain ⟨byte, tail, hByte, h⟩ := h
    have := length_of_readNumber? hByte
    have := ih h
    omega

theorem length_le_of_readBlock? {kind : Nat}
    (h : readBlock? kind bits output = some (rest, written)) : rest.length ≤ bits.length := by
  unfold readBlock? at h
  split at h
  case isTrue =>
    simp only [Option.bind_eq_bind, Option.bind_eq_some_iff, Prod.exists] at h
    obtain ⟨length, bits₁, h₁, check, bits₂, h₂, h⟩ := h
    split at h
    · have := length_of_readNumber? h₁
      have := length_of_readNumber? h₂
      have := length_le_of_readStored? h
      have : (bits.drop (bits.length % 8)).length ≤ bits.length := by simp
      omega
    · simp at h
  case isFalse =>
    split at h
    · simp only [Option.bind_eq_bind, Option.bind_eq_some_iff] at h
      obtain ⟨_, -, _, -, h⟩ := h
      exact Nat.le_of_lt (length_lt_of_readSymbols? h)
    split at h
    · simp only [Option.bind_eq_bind, Option.bind_eq_some_iff, Prod.exists] at h
      obtain ⟨_, _, tail, hCodes, h⟩ := h
      have := length_le_of_readCodes? hCodes
      have := length_lt_of_readSymbols? h
      omega
    · simp at h

@[simp]
theorem readBlocks?_nil {fuel : Nat} : readBlocks? fuel [] output = none := by
  cases fuel <;> simp [readBlocks?, readNumber?]

/-- The number of steps given to the blocks does not matter once it covers the bits. -/
theorem readBlocks?_congr {fuel other : Nat} (h : bits.length ≤ fuel) (h' : bits.length ≤ other) :
    readBlocks? fuel bits output = readBlocks? other bits output := by
  induction fuel generalizing other bits output with
  | zero => simp [List.eq_nil_of_length_eq_zero (Nat.le_zero.1 h)]
  | succ fuel ih =>
    cases other with
    | zero => simp [List.eq_nil_of_length_eq_zero (Nat.le_zero.1 h')]
    | succ other =>
      simp only [readBlocks?, Option.bind_eq_bind]
      refine Option.bind_congr fun (final, afterFinal) hFinal => ?_
      refine Option.bind_congr fun (kind, afterKind) hKind => ?_
      refine Option.bind_congr fun (tail, extended) hBlock => ?_
      have hTail : tail.length < bits.length := calc
        tail.length ≤ afterKind.length := length_le_of_readBlock? hBlock
        _ ≤ afterFinal.length := by
          have : afterFinal.length = 2 + afterKind.length := length_of_readNumber? hKind
          omega
        _ < bits.length := by
          have : bits.length = 1 + afterFinal.length := length_of_readNumber? hFinal
          omega
      dsimp only
      split
      · rfl
      · exact ih (by omega) (by omega)

/-- A stream has the bytes that its blocks spell, however many steps are allowed beyond the
number of its bits. -/
theorem inflate?_eq_readBlocks? {bytes : Bytes} {fuel : Nat}
    (h : (bitsOf bytes).length ≤ fuel) : inflate? bytes = readBlocks? fuel (bitsOf bytes) [] :=
  readBlocks?_congr (Nat.le_refl _) h

end Gatehouse.Deflate
