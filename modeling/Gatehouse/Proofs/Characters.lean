import Gatehouse.Proofs.Grammar

/-! Strings are read as the grammar has them. A string whose bytes and escapes make up characters
denotes the text of these characters; every other string is read for its syntax alone. -/
namespace Gatehouse.Json

/-! ## Characters as bytes -/

theorem utf8_cons (c : Char) (text : List Char) :
    utf8 (c :: text) = String.utf8EncodeChar c ++ utf8 text :=
  List.flatMap_cons

theorem utf8_singleton (c : Char) : utf8 [c] = String.utf8EncodeChar c := by
  rw [utf8_cons, utf8_nil, List.append_nil]

/-- A character can be told from the bytes that begin with it. -/
theorem utf8EncodeChar_append_inj {c d : Char} {first second : Bytes}
    (h : String.utf8EncodeChar c ++ first = String.utf8EncodeChar d ++ second) :
    c = d ∧ first = second := by
  have hDecoded (e : Char) (rest : Bytes) :
      ByteArray.utf8DecodeChar? (String.utf8EncodeChar e ++ rest).toByteArray 0 = some e := by
    rw [List.toByteArray_append]
    exact ByteArray.utf8DecodeChar?_utf8EncodeChar_append
  have hSame : c = d := by
    have hFirst := hDecoded c first
    rw [h, hDecoded d second] at hFirst
    exact (Option.some.inj hFirst).symm
  subst hSame
  exact ⟨rfl, List.append_cancel_left h⟩

/-- Of the bytes of a character, the first one and no other can begin a character. -/
theorem exists_utf8EncodeChar_eq (c : Char) :
    ∃ b more, String.utf8EncodeChar c = b :: more ∧ b.IsUTF8FirstByte ∧
      ∀ d ∈ more, ¬ d.IsUTF8FirstByte := by
  obtain ⟨b, more, hBytes⟩ := List.exists_cons_of_ne_nil (String.utf8EncodeChar_ne_nil (c := c))
  have hFirst (i : Nat) (hi : i < (b :: more).length) :
      (b :: more)[i].IsUTF8FirstByte ↔ i = 0 := by
    simp only [← hBytes]
    exact UInt8.isUTF8FirstByte_getElem_utf8EncodeChar
  refine ⟨b, more, hBytes, (hFirst 0 (by simp)).mpr rfl, fun d hd => ?_⟩
  obtain ⟨i, hi, rfl⟩ := List.getElem_of_mem hd
  have hLater := hFirst (i + 1) (by simpa using hi)
  simpa using hLater

/-! ## Escapes -/

/-- What the writer puts after a backslash is what the reader expects there. -/
theorem shortEscapes_spec {letter c : Char} (h : (letter, c) ∈ shortEscapes) :
    utf8 ['\\', letter] = [0x5C, UInt8.ofNat letter.toNat] ∧ UInt8.ofNat letter.toNat ≠ 0x75 ∧
      escapedByte? (UInt8.ofNat letter.toNat) = some (UInt8.ofNat c.toNat) ∧ c.toNat < 128 := by
  have hAll : ∀ escape ∈ shortEscapes,
      utf8 ['\\', escape.1] = [0x5C, UInt8.ofNat escape.1.toNat] ∧
        UInt8.ofNat escape.1.toNat ≠ 0x75 ∧
        escapedByte? (UInt8.ofNat escape.1.toNat) = some (UInt8.ofNat escape.2.toNat) ∧
        escape.2.toNat < 128 := by
    decide
  exact hAll (letter, c) h

/-- The reader takes no short escape that the writer does not know. -/
theorem exists_shortEscape {letter byte : UInt8} (h : escapedByte? letter = some byte) :
    ∃ escape ∈ shortEscapes, letter = UInt8.ofNat escape.1.toNat ∧
      byte = UInt8.ofNat escape.2.toNat := by
  have hAll : ∀ n < 256, ((escapedByte? (UInt8.ofNat n)).all fun byte =>
      shortEscapes.any fun escape => UInt8.ofNat n == UInt8.ofNat escape.1.toNat &&
        byte == UInt8.ofNat escape.2.toNat) = true := by
    decide +kernel
  have hLetter := hAll letter.toNat letter.toNat_lt
  rw [UInt8.ofNat_toNat, h, Option.all_some, List.any_eq_true] at hLetter
  obtain ⟨escape, hMem, hSame⟩ := hLetter
  rw [Bool.and_eq_true, beq_iff_eq, beq_iff_eq] at hSame
  exact ⟨escape, hMem, hSame⟩

theorem hexByteValue?_lt {b : UInt8} {n : Nat} (h : hexByteValue? b = some n) : n < 16 := by
  have hAll : ∀ n < 256, ((hexByteValue? (UInt8.ofNat n)).all fun value => value < 16) = true := by
    decide +kernel
  have hByte := hAll b.toNat b.toNat_lt
  rw [UInt8.ofNat_toNat, h] at hByte
  exact of_decide_eq_true hByte

/-- Four hexadecimal digits make a number of 16 bits. -/
theorem SpellsUnit.lt {n : Nat} {digits : Bytes} (h : SpellsUnit n digits) : n < 0x10000 := by
  cases h with
  | digits ha hb hc hd =>
      have hw := hexByteValue?_lt ha
      have hx := hexByteValue?_lt hb
      have hy := hexByteValue?_lt hc
      have hz := hexByteValue?_lt hd
      omega

/-! ## Pieces -/

theorem SpellsPieces.append {first second : List Piece} {a b : Bytes}
    (hFirst : SpellsPieces first a) (hSecond : SpellsPieces second b) :
    SpellsPieces (first ++ second) (a ++ b) := by
  induction hFirst with
  | nil => exact hSecond
  | cons hPiece _ ih =>
      rw [List.append_assoc]
      exact .cons hPiece ih

theorem SpellsPieces.single {piece : Piece} {literal : Bytes} (h : SpellsPiece piece literal) :
    SpellsPieces [piece] literal := by
  have hCons := SpellsPieces.cons h .nil
  rwa [List.append_nil] at hCons

/-- Bytes that stand for themselves. -/
theorem spellsPieces_bytes {bytes : Bytes} (h : ∀ b ∈ bytes, 0x20 ≤ b ∧ b ≠ 0x22 ∧ b ≠ 0x5C) :
    SpellsPieces (bytes.map .byte) bytes := by
  induction bytes with
  | nil => exact .nil
  | cons b rest ih =>
      obtain ⟨hPlain, hQuote, hEscape⟩ := h b (List.mem_cons_self ..)
      have hPiece : SpellsPiece (.byte b) [b] := .plain hPlain hQuote hEscape
      exact .cons hPiece (ih fun c hc => h c (List.mem_cons_of_mem _ hc))

/-- The pieces of a string are read up to the closing quote. -/
theorem readString?_of_spells {pieces : List Piece} {body : Bytes} (h : SpellsPieces pieces body)
    (read : List Piece) (rest : Bytes) :
    readString? read (body ++ 0x22 :: rest) = some (read.reverse ++ pieces, rest) := by
  induction h generalizing read with
  | nil => rw [List.nil_append, readString?, List.append_nil]
  | @cons piece pieces literal body hPiece _ ih =>
      have hNext := ih (piece :: read)
      rw [List.reverse_cons, List.append_assoc, List.singleton_append] at hNext
      rw [← hNext, List.append_assoc]
      cases hPiece with
      | plain hPlain hQuote hEscape => exact readString?_plain hPlain hQuote hEscape read _
      | short hShort =>
          obtain ⟨hBytes, hLetter, hByte, -⟩ := shortEscapes_spec hShort
          rw [hBytes]
          exact readString?_letter hLetter hByte read _
      | code hUnit =>
          cases hUnit with
          | digits ha hb hc hd => exact readString?_unit ha hb hc hd read _

/-- Whatever is read up to a closing quote has the syntax of a string. -/
theorem exists_spells_of_readString? {read found : List Piece} {bytes rest : Bytes}
    (h : readString? read bytes = some (found, rest)) :
    ∃ pieces body, found = read.reverse ++ pieces ∧ bytes = body ++ 0x22 :: rest ∧
      SpellsPieces pieces body := by
  have hNext {piece : Piece} {literal after : Bytes} {read : List Piece}
      (hPiece : SpellsPiece piece literal)
      (hAfter : ∃ pieces body, found = (piece :: read).reverse ++ pieces ∧
        after = body ++ 0x22 :: rest ∧ SpellsPieces pieces body) :
      ∃ pieces body, found = read.reverse ++ pieces ∧
        literal ++ after = body ++ 0x22 :: rest ∧ SpellsPieces pieces body := by
    obtain ⟨pieces, body, hFound, rfl, hBody⟩ := hAfter
    refine ⟨piece :: pieces, literal ++ body, ?_, (List.append_assoc ..).symm, .cons hPiece hBody⟩
    rw [hFound, List.reverse_cons, List.append_assoc, List.singleton_append]
  fun_induction readString? read bytes with
  | case1 => cases h
  | case2 read after =>
      cases h
      exact ⟨[], [], (List.append_nil _).symm, rfl, .nil⟩
  | case3 read a b c d after ih =>
      simp only [Option.bind_eq_bind, Option.bind_eq_some_iff] at h
      obtain ⟨w, ha, x, hb, y, hc, z, hd, h⟩ := h
      exact hNext (.code (.digits ha hb hc hd)) (ih w x y z h)
  | case4 read letter after _ ih =>
      simp only [Option.bind_eq_bind, Option.bind_eq_some_iff] at h
      obtain ⟨byte, hByte, h⟩ := h
      obtain ⟨⟨letter, c⟩, hShort, rfl, rfl⟩ := exists_shortEscape hByte
      have hSpelled := hNext (.short hShort) (ih _ h)
      rwa [(shortEscapes_spec hShort).1] at hSpelled
  | case5 => cases h
  | case6 read b after hQuote _ _ hPlain ih =>
      rw [not_or, UInt8.not_lt] at hPlain
      exact hNext (.plain hPlain.1 hQuote hPlain.2) (ih h)

/-! ## What a string denotes -/

/-- A high and a low surrogate are one character. -/
theorem bytesOfPieces?_surrogates {high low : Nat} (hHigh : isHighSurrogate high = true)
    (hLow : isLowSurrogate low = true) (rest : List Piece) :
    bytesOfPieces? (.unit high :: .unit low :: rest) =
      (bytesOfPieces? rest).map (String.utf8EncodeChar (Char.ofNat (pairCode high low)) ++ ·) := by
  rw [bytesOfPieces?, if_pos hHigh, if_pos hLow]
  rfl

/-- A unit is a character by itself, or the first half of one. -/
theorem bytesOfPieces?_unit_cases {n : Nat} {pieces : List Piece} {bytes : Bytes}
    (h : bytesOfPieces? (.unit n :: pieces) = some bytes) :
    (∃ rest, isHighSurrogate n = false ∧ isLowSurrogate n = false ∧
      bytesOfPieces? pieces = some rest ∧ bytes = String.utf8EncodeChar (Char.ofNat n) ++ rest) ∨
    ∃ low more rest, pieces = .unit low :: more ∧ isHighSurrogate n = true ∧
      isLowSurrogate low = true ∧ bytesOfPieces? more = some rest ∧
      bytes = String.utf8EncodeChar (Char.ofNat (pairCode n low)) ++ rest := by
  cases hHigh : isHighSurrogate n with
  | false =>
      cases hLow : isLowSurrogate n with
      | false =>
          rw [bytesOfPieces?_unit hHigh hLow] at h
          obtain ⟨rest, hRest, hBytes⟩ := Option.map_eq_some_iff.mp h
          exact .inl ⟨rest, rfl, rfl, hRest, hBytes.symm⟩
      | true =>
          cases pieces with
          | nil => simp [bytesOfPieces?, hHigh, hLow] at h
          | cons piece more => cases piece <;> simp [bytesOfPieces?, hHigh, hLow] at h
  | true =>
      cases pieces with
      | nil => simp [bytesOfPieces?, hHigh] at h
      | cons piece more =>
          cases piece with
          | byte b => simp [bytesOfPieces?, hHigh] at h
          | unit low =>
              cases hLow : isLowSurrogate low with
              | false => simp [bytesOfPieces?, hHigh, hLow] at h
              | true =>
                  rw [bytesOfPieces?_surrogates hHigh hLow] at h
                  obtain ⟨rest, hRest, hBytes⟩ := Option.map_eq_some_iff.mp h
                  exact .inr ⟨low, more, rest, rfl, rfl, hLow, hRest, hBytes.symm⟩

/-- The bytes that go on a character begin no other piece: they stand for themselves. -/
theorem exists_of_continuation {tail after body : Bytes} {pieces : List Piece}
    (hTail : ∀ b ∈ tail, ¬ b.IsUTF8FirstByte) (hPieces : SpellsPieces pieces body)
    (h : bytesOfPieces? pieces = some (tail ++ after)) :
    ∃ more rest, SpellsPieces more rest ∧ bytesOfPieces? more = some after ∧
      body = tail ++ rest := by
  induction tail generalizing pieces body with
  | nil => exact ⟨pieces, body, hPieces, h, rfl⟩
  | cons b tail ih =>
      have hOther := hTail b (List.mem_cons_self ..)
      have hNot (c : Char) (rest : Bytes) :
          b :: (tail ++ after) ≠ String.utf8EncodeChar c ++ rest := by
        obtain ⟨first, others, hBytes, hFirst, -⟩ := exists_utf8EncodeChar_eq c
        rw [hBytes]
        intro hSame
        exact hOther ((List.cons.inj hSame).1 ▸ hFirst)
      cases hPieces with
      | nil => cases h
      | @cons piece pieces literal body hPiece hBody =>
          cases hPiece with
          | plain hPlain hQuote hEscape =>
              rw [bytesOfPieces?_byte] at h
              obtain ⟨rest, hRest, hSame⟩ := Option.map_eq_some_iff.mp h
              obtain ⟨rfl, rfl⟩ := List.cons.inj hSame
              obtain ⟨more, rest, hMore, hAfter, rfl⟩ :=
                ih (fun c hc => hTail c (List.mem_cons_of_mem _ hc)) hBody hRest
              exact ⟨more, rest, hMore, hAfter, rfl⟩
          | @short letter c hShort =>
              rw [bytesOfPieces?_byte] at h
              obtain ⟨rest, hRest, hSame⟩ := Option.map_eq_some_iff.mp h
              have hAscii := (shortEscapes_spec hShort).2.2.2
              refine (hNot c rest ?_).elim
              rw [Bytes.utf8EncodeChar_of_ascii hAscii]
              exact hSame.symm
          | code hUnit =>
              rcases bytesOfPieces?_unit_cases h with ⟨rest, -, -, -, hSame⟩ |
                ⟨low, more, rest, -, -, -, -, hSame⟩
              · exact (hNot _ rest hSame).elim
              · exact (hNot _ rest hSame).elim

/-- A number in range that is no surrogate is the code of a character. -/
theorem toNat_ofNat {n : Nat} (h : n < 0x110000) (hHigh : isHighSurrogate n = false)
    (hLow : isLowSurrogate n = false) : (Char.ofNat n).toNat = n := by
  have hValid : n.isValidChar := by
    simp only [isHighSurrogate, isLowSurrogate, Bool.and_eq_false_iff,
      decide_eq_false_iff_not] at hHigh hLow
    unfold Nat.isValidChar
    omega
  rw [Char.ofNat, dif_pos hValid]
  rfl

/-- A pair of surrogates is a character beyond the first 65536. -/
theorem toNat_pairCode {high low : Nat} (hHigh : isHighSurrogate high = true)
    (hLow : isLowSurrogate low = true) :
    (Char.ofNat (pairCode high low)).toNat = pairCode high low := by
  simp only [isHighSurrogate, isLowSurrogate, Bool.and_eq_true, decide_eq_true_eq] at hHigh hLow
  have hCode : 0x10000 ≤ pairCode high low ∧ pairCode high low < 0x110000 := by
    unfold pairCode
    omega
  refine toNat_ofNat hCode.2 ?_ ?_
  · simp only [isHighSurrogate, Bool.and_eq_false_iff, decide_eq_false_iff_not]
    omega
  · simp only [isLowSurrogate, Bool.and_eq_false_iff, decide_eq_false_iff_not]
    omega

theorem bytesOfPieces?_cons_ne_nil (piece : Piece) (pieces : List Piece) :
    bytesOfPieces? (piece :: pieces) ≠ some [] := by
  intro h
  cases piece with
  | byte b =>
      rw [bytesOfPieces?_byte] at h
      obtain ⟨rest, -, hSame⟩ := Option.map_eq_some_iff.mp h
      cases hSame
  | unit n =>
      rcases bytesOfPieces?_unit_cases h with ⟨rest, -, -, -, hSame⟩ |
        ⟨low, more, rest, -, -, -, -, hSame⟩
      · exact String.utf8EncodeChar_ne_nil (List.append_eq_nil_iff.mp hSame.symm).1
      · exact String.utf8EncodeChar_ne_nil (List.append_eq_nil_iff.mp hSame.symm).1

/-- A byte that stands for itself begins a character that does so, with all its other bytes. -/
theorem spellsText_of_plain {c : Char} {text : List Char} {b : UInt8} {rest : Bytes}
    {pieces : List Piece} {body : Bytes} (hPlain : 0x20 ≤ b) (hQuote : b ≠ 0x22)
    (hEscape : b ≠ 0x5C) (hPieces : SpellsPieces pieces body)
    (hRest : bytesOfPieces? pieces = some rest)
    (hBytes : b :: rest = String.utf8EncodeChar c ++ utf8 text)
    (ih : ∀ {pieces body}, SpellsPieces pieces body →
      bytesOfPieces? pieces = some (utf8 text) → SpellsText text body) :
    SpellsText (c :: text) (b :: body) := by
  obtain ⟨first, tail, hChar, -, hTail⟩ := exists_utf8EncodeChar_eq c
  rw [hChar, List.cons_append] at hBytes
  obtain ⟨rfl, rfl⟩ := List.cons.inj hBytes
  obtain ⟨more, after, hMore, hAfter, rfl⟩ := exists_of_continuation hTail hPieces hRest
  have hSelf : b :: (tail ++ after) = utf8 [c] ++ after := by
    rw [utf8_singleton, hChar, List.cons_append]
  rw [hSelf]
  refine .cons (.plain ?_ ?_ ?_) (ih hMore hAfter)
  · intro hControl
    have hCode : c.toNat < 32 := hControl
    rw [Bytes.utf8EncodeChar_of_ascii (by omega)] at hChar
    obtain rfl := (List.cons.inj hChar).1
    have hByte := UInt8.le_iff_toNat_le.mp hPlain
    rw [UInt8.toNat_ofNat', Nat.mod_eq_of_lt (by omega)] at hByte
    exact absurd hByte (Nat.not_le.mpr hCode)
  · rintro rfl
    exact hQuote (List.cons.inj hChar).1.symm
  · rintro rfl
    exact hEscape (List.cons.inj hChar).1.symm

/-- Pieces that make up the characters of a text spell that text. -/
theorem spellsText_of_pieces {text : List Char} {pieces : List Piece} {body : Bytes}
    (hPieces : SpellsPieces pieces body) (h : bytesOfPieces? pieces = some (utf8 text)) :
    SpellsText text body := by
  induction text generalizing pieces body with
  | nil =>
      cases hPieces with
      | nil => exact .nil
      | cons hPiece _ => exact (bytesOfPieces?_cons_ne_nil _ _ h).elim
  | cons c text ih =>
      rw [utf8_cons] at h
      cases hPieces with
      | nil =>
          obtain ⟨first, tail, hChar, -⟩ := exists_utf8EncodeChar_eq c
          simp [bytesOfPieces?, hChar] at h
      | @cons piece pieces literal body hPiece hBody =>
          cases hPiece with
          | plain hPlain hQuote hEscape =>
              rw [bytesOfPieces?_byte] at h
              obtain ⟨rest, hRest, hSame⟩ := Option.map_eq_some_iff.mp h
              exact spellsText_of_plain hPlain hQuote hEscape hBody hRest hSame ih
          | @short letter d hShort =>
              rw [bytesOfPieces?_byte] at h
              obtain ⟨rest, hRest, hSame⟩ := Option.map_eq_some_iff.mp h
              have hAscii := (shortEscapes_spec hShort).2.2.2
              rw [← List.singleton_append, ← Bytes.utf8EncodeChar_of_ascii hAscii] at hSame
              obtain ⟨rfl, rfl⟩ := utf8EncodeChar_append_inj hSame
              exact .cons (.short hShort) (ih hBody hRest)
          | @code n digits hUnit =>
              rcases bytesOfPieces?_unit_cases h with ⟨rest, hHigh, hLow, hRest, hSame⟩ |
                ⟨low, more, rest, rfl, hHigh, hLow, hRest, hSame⟩
              · obtain ⟨rfl, rfl⟩ := utf8EncodeChar_append_inj hSame
                have hCode := toNat_ofNat (Nat.lt_trans hUnit.lt (by omega)) hHigh hLow
                rw [← hCode] at hUnit
                exact .cons (.code hUnit) (ih hBody hRest)
              · have hCode := toNat_pairCode hHigh hLow
                generalize Char.ofNat (pairCode n low) = d at hSame hCode
                obtain ⟨rfl, rfl⟩ := utf8EncodeChar_append_inj hSame
                cases hBody with
                | cons hSecond hMore =>
                    cases hSecond with
                    | code hSecondUnit =>
                        have hPair := SpellsText.cons
                          (.surrogates hUnit hSecondUnit hHigh hLow hCode) (ih hMore hRest)
                        rwa [List.append_assoc] at hPair

/-- Bytes that stand for themselves are taken as they are. -/
theorem bytesOfPieces?_bytes (bytes : Bytes) (more : List Piece) :
    bytesOfPieces? (bytes.map .byte ++ more) = (bytesOfPieces? more).map (bytes ++ ·) := by
  induction bytes with
  | nil => simp
  | cons b rest ih =>
      rw [List.map_cons, List.cons_append, bytesOfPieces?_byte, ih, Option.map_map]
      rfl

/-- The code of a character is no surrogate. -/
theorem not_surrogate (c : Char) :
    isHighSurrogate c.toNat = false ∧ isLowSurrogate c.toNat = false := by
  have hValid : c.toNat < 0xD800 ∨ 0xDFFF < c.toNat ∧ c.toNat < 0x110000 := c.valid
  constructor
  · simp only [isHighSurrogate, Bool.and_eq_false_iff, decide_eq_false_iff_not]
    omega
  · simp only [isLowSurrogate, Bool.and_eq_false_iff, decide_eq_false_iff_not]
    omega

/-- The characters of a text are spelled in pieces that make them up, whatever follows. -/
theorem exists_pieces_of_char {c : Char} {literal : Bytes} (h : SpellsChar c literal) :
    ∃ pieces, SpellsPieces pieces literal ∧ ∀ more, bytesOfPieces? (pieces ++ more) =
      (bytesOfPieces? more).map (String.utf8EncodeChar c ++ ·) := by
  cases h with
  | plain hPlain hQuote hEscape =>
      rw [utf8_singleton]
      refine ⟨_, spellsPieces_bytes fun b hb => plain_of_mem_utf8 hPlain hQuote hEscape hb, ?_⟩
      exact bytesOfPieces?_bytes _
  | @short letter c hShort =>
      refine ⟨_, .single (.short hShort), fun more => ?_⟩
      rw [List.singleton_append, bytesOfPieces?_byte,
        Bytes.utf8EncodeChar_of_ascii (shortEscapes_spec hShort).2.2.2]
      rfl
  | code hUnit =>
      refine ⟨_, .single (.code hUnit), fun more => ?_⟩
      have hScalar := not_surrogate c
      rw [List.singleton_append, bytesOfPieces?_unit hScalar.1 hScalar.2, Char.ofNat_toNat]
  | @surrogates c high low first second hFirst hSecond hHigh hLow hCode =>
      refine ⟨_, SpellsPieces.append (.single (.code hFirst)) (.single (.code hSecond)),
        fun more => ?_⟩
      have hSame : Char.ofNat (pairCode high low) = c := by
        rw [← hCode, Char.ofNat_toNat]
      rw [List.append_assoc, List.singleton_append, List.singleton_append,
        bytesOfPieces?_surrogates hHigh hLow, hSame]

/-- However a text is spelled, the pieces of the spelling give its bytes. -/
theorem exists_pieces_of_text {text : List Char} {body : Bytes} (h : SpellsText text body) :
    ∃ pieces, SpellsPieces pieces body ∧ bytesOfPieces? pieces = some (utf8 text) := by
  induction h with
  | nil => exact ⟨[], .nil, rfl⟩
  | cons hChar _ ih =>
      obtain ⟨first, hFirst, hBytes⟩ := exists_pieces_of_char hChar
      obtain ⟨rest, hRest, hText⟩ := ih
      exact ⟨first ++ rest, hFirst.append hRest, by rw [hBytes, hText, utf8_cons]; rfl⟩

/-- A string can be cut into pieces in one way only. -/
theorem SpellsPieces.unique {first second : List Piece} {body : Bytes}
    (hFirst : SpellsPieces first body) (hSecond : SpellsPieces second body) : first = second := by
  have hRead := readString?_of_spells hFirst [] []
  rw [readString?_of_spells hSecond [] []] at hRead
  simpa using hRead.symm

/-- A string denotes a text just if it spells the characters of that text. -/
theorem textOfPieces?_eq_some_iff {pieces : List Piece} {body : Bytes} {text : String}
    (h : SpellsPieces pieces body) :
    textOfPieces? pieces = some text ↔ SpellsText text.toList body := by
  have hUtf8 : Bytes.ofText text = utf8 text.toList := by
    rw [utf8, ← Bytes.ofText_ofList, String.ofList_toList]
  rw [textOfPieces?, Option.bind_eq_some_iff]
  constructor
  · rintro ⟨bytes, hBytes, hText⟩
    rw [← Bytes.ofText_of_toText? hText, hUtf8] at hBytes
    exact spellsText_of_pieces h hBytes
  · intro hSpells
    obtain ⟨others, hOthers, hBytes⟩ := exists_pieces_of_text hSpells
    rw [hOthers.unique h, ← hUtf8] at hBytes
    exact ⟨_, hBytes, Bytes.toText?_ofText text⟩

end Gatehouse.Json
