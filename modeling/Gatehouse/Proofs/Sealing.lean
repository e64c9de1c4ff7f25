import Gatehouse.Proofs.Masking
import Gatehouse.Proofs.Spelling
import Gatehouse.Token.Service

/-! The form of a token. Its five segments can be told apart, whatever is in them, and a token
that was sealed with a key is opened with it. -/
namespace Gatehouse

/-- No piece of a text has the separator in it. -/
theorem Text.not_mem_of_mem_splitOnP {separator : Char} {text piece : List Char}
    (h : piece ∈ text.splitOnP (· == separator)) : separator ∉ piece := by
  induction text generalizing piece with
  | nil =>
      rw [List.splitOnP_nil, List.mem_singleton] at h
      subst h
      exact List.not_mem_nil
  | cons c rest ih =>
      rw [List.splitOnP_cons_eq_if_modifyHead] at h
      split at h
      · rcases List.mem_cons.mp h with rfl | h
        · exact List.not_mem_nil
        · exact ih h
      · next hSeparator =>
        cases hRest : rest.splitOnP (· == separator) with
        | nil => exact (List.splitOnP_ne_nil _ _ hRest).elim
        | cons first others =>
            rw [hRest] at h ih
            rcases List.mem_cons.mp h with rfl | h
            · have hFirst := ih (List.mem_cons_self ..)
              intro hMem
              rcases List.mem_cons.mp hMem with rfl | hMem
              · exact hSeparator (beq_self_eq_true _)
              · exact hFirst hMem
            · exact ih (List.mem_cons_of_mem _ h)

namespace Token

/-! ## Segments -/

/-- Segments without dots can be joined and taken apart again. -/
theorem segments_joinSegments {pieces : List (List Char)} (hDots : ∀ piece ∈ pieces, '.' ∉ piece)
    (h : pieces ≠ []) : segments (joinSegments pieces) = pieces := by
  rw [segments, ← List.splitOn_eq_splitOnP]
  exact List.splitOn_intercalate '.' hDots h

theorem dot_not_mem_of_mem_segments {token piece : List Char} (h : piece ∈ segments token) :
    '.' ∉ piece :=
  Text.not_mem_of_mem_splitOnP h

/-- What makes up a token that can be read. -/
theorem Envelope.parse?_eq_some_iff {token : List Char} {envelope : Envelope} :
    Envelope.parse? token = some envelope ↔
      ∃ header iv ciphertext tag headerBytes,
        segments token = [header, [], iv, ciphertext, tag] ∧
        Bytes.ofBase64Url? header = some headerBytes ∧
        Header.parse? headerBytes = some envelope.header ∧
        Bytes.ofBase64Url? iv = some envelope.iv ∧
        Bytes.ofBase64Url? ciphertext = some envelope.ciphertext ∧
        Bytes.ofBase64Url? tag = some envelope.tag ∧
        envelope.associated = header.map fun c => UInt8.ofNat c.toNat := by
  unfold Envelope.parse?
  constructor
  · intro h
    split at h
    · next header iv ciphertext tag hSegments =>
      simp only [Option.bind_eq_bind, Option.bind_eq_some_iff] at h
      obtain ⟨headerBytes, hHeader, ivBytes, hIv, textBytes, hText, parsed, hParsed, tagBytes,
        hTag, hEnvelope⟩ := h
      cases hEnvelope
      exact ⟨header, iv, ciphertext, tag, headerBytes, hSegments, hHeader, hParsed, hIv, hText,
        hTag, rfl⟩
    · cases h
  · rintro ⟨header, iv, ciphertext, tag, headerBytes, hSegments, hHeader, hParsed, hIv, hText, hTag,
      hAssociated⟩
    rw [hSegments]
    simp only [Option.bind_eq_bind, hHeader, hParsed, hIv, hText, hTag, Option.bind_some,
      ← hAssociated]

/-! ## Decryption -/

namespace Envelope

/-- What is decrypted has a vector, and a tag that the full tag begins with. -/
theorem decryptGcm_eq_ok_iff {key : Key} {envelope : Envelope} {text : Bytes} :
    envelope.decryptGcm key = .ok text ↔
      (envelope.iv ≠ [] ∧ envelope.iv.length ≤ maxIvLength) ∧
        (envelope.tag ≠ [] ∧ envelope.tag <+:
          Gcm.tag (Gcm.aes key.bytes) envelope.iv envelope.associated envelope.ciphertext) ∧
        Gcm.mask (Gcm.aes key.bytes) envelope.iv envelope.ciphertext = text := by
  unfold decryptGcm
  constructor
  · intro h
    split at h
    · cases h
    · split at h
      · cases h
      · next hIv =>
        split at h
        · cases h
        · next hShort =>
          split at h
          · cases h
          · next found hFound =>
            cases h
            obtain ⟨hEmpty, hBegins, hText⟩ :=
              (Gcm.decrypt?_eq_some_iff (Gcm.length_aes key.bytes)).mp hFound
            exact ⟨⟨by simpa using hIv, by omega⟩, ⟨hEmpty, hBegins⟩, hText⟩
  · rintro ⟨⟨hIv, hShort⟩, ⟨hEmpty, hBegins⟩, hText⟩
    have hFound := (Gcm.decrypt?_eq_some_iff (Gcm.length_aes key.bytes)).mpr
      ⟨hEmpty, hBegins, hText⟩
    rw [if_neg (by simpa using hEmpty), if_neg (by simpa using hIv), if_neg (by omega), hFound]

/-- What is decrypted has a vector, whole blocks, the full tag and a proper padding. -/
theorem decryptCbcHmac_eq_ok_iff {key : Key} {envelope : Envelope} {text : Bytes} :
    envelope.decryptCbcHmac key = .ok text ↔
      (16 ≤ envelope.iv.length ∧ envelope.ciphertext.length % 16 = 0) ∧
        CbcHmac.tag key.bytes envelope.iv envelope.associated envelope.ciphertext = envelope.tag ∧
        CbcHmac.unpad? (CbcHmac.unchain (Aes.roundKeys (CbcHmac.cipherKey key.bytes))
          (envelope.iv.take 16) (envelope.ciphertext.blocks 16)) = some text := by
  unfold decryptCbcHmac
  constructor
  · intro h
    split at h
    · cases h
    · split at h
      · cases h
      · next hIv =>
        split at h
        · cases h
        · next found hFound =>
          cases h
          unfold CbcHmac.decrypt? at hFound
          split at hFound
          · next hGiven => exact ⟨⟨by omega, hGiven.1⟩, hGiven.2, hFound⟩
          · cases hFound
  · rintro ⟨⟨hIv, hBlocks⟩, hTag, hText⟩
    have hSome : envelope.iv ≠ [] := List.ne_nil_of_length_pos (by omega)
    rw [if_neg (by simpa using hSome), if_neg (by omega), CbcHmac.decrypt?, if_pos ⟨hBlocks, hTag⟩,
      hText]

/-- The text of a message as it was encrypted. -/
def body (key : Key) (envelope : Envelope) : Except Failure Bytes :=
  match envelope.header.encryption with
  | .gcm => envelope.decryptGcm key
  | .cbcHmac => envelope.decryptCbcHmac key

/-- Compression is undone after the decryption. -/
theorem decrypt_eq (key : Key) (envelope : Envelope) :
    envelope.decrypt key = (envelope.body key).bind fun text =>
      if envelope.header.compressed then
        match Deflate.inflate? text with
        | none => .error (.error .invalid)
        | some text => .ok text
      else .ok text := by
  unfold decrypt body
  cases envelope.header.encryption <;> rfl

theorem exists_body_of_decrypt {key : Key} {envelope : Envelope} {payload : Bytes}
    (h : envelope.decrypt key = .ok payload) : ∃ text, envelope.body key = .ok text := by
  rw [decrypt_eq] at h
  cases hBody : envelope.body key with
  | ok text => exact ⟨text, rfl⟩
  | error error =>
      rw [hBody] at h
      cases h

end Envelope

/-! ## Sealing -/

theorem parse?_issued : Header.parse? (Bytes.ofText Header.issued.render) = some ⟨.gcm, false⟩ :=
  rfl

/-- What is spelled out in five segments is read again. -/
theorem Envelope.parse?_spelled {headerBytes : Bytes} {header : Header}
    (h : Header.parse? headerBytes = some header) (iv ciphertext tag : Bytes) :
    Envelope.parse? (joinSegments [Bytes.toBase64Url headerBytes, [], Bytes.toBase64Url iv,
        Bytes.toBase64Url ciphertext, Bytes.toBase64Url tag]) =
      some ⟨(Bytes.toBase64Url headerBytes).map fun c => UInt8.ofNat c.toNat, header, iv,
        ciphertext, tag⟩ := by
  refine Envelope.parse?_eq_some_iff.mpr ⟨_, _, _, _, _, segments_joinSegments ?_ ?_,
    Bytes.ofBase64Url?_toBase64Url _, h, Bytes.ofBase64Url?_toBase64Url _,
    Bytes.ofBase64Url?_toBase64Url _, Bytes.ofBase64Url?_toBase64Url _, rfl⟩
  · simp [Bytes.dot_not_mem_toBase64Url]
  · exact List.cons_ne_nil _ _

/-- The token of a payload under `A256GCM`, with a protected header of choice. -/
def sealUnder (key : Key) (headerBytes iv payload : Bytes) : String :=
  let header := Bytes.toBase64Url headerBytes
  let associated : Bytes := header.map fun c => UInt8.ofNat c.toNat
  let (ciphertext, tag) := Gcm.encrypt (Gcm.aes key.bytes) iv associated payload
  String.ofList <| joinSegments
    [header, [], Bytes.toBase64Url iv, Bytes.toBase64Url ciphertext, Bytes.toBase64Url tag]

/-- Issued tokens have a header of their own. -/
theorem sealUnder_issued (key : Key) (iv payload : Bytes) :
    sealUnder key (Bytes.ofText Header.issued.render) iv payload = sealToken key iv payload := rfl

/-- A sealed payload can be read again, with the full tag. -/
theorem parse?_sealUnder (key : Key) {headerBytes : Bytes} {header : Header}
    (hHeader : Header.parse? headerBytes = some header) (iv payload : Bytes) :
    ∃ envelope, Envelope.parse? (sealUnder key headerBytes iv payload).toList = some envelope ∧
      envelope.header = header ∧ envelope.iv = iv ∧
      (envelope.ciphertext, envelope.tag) =
        Gcm.encrypt (Gcm.aes key.bytes) iv envelope.associated payload := by
  unfold sealUnder
  dsimp only
  rw [String.toList_ofList]
  exact ⟨_, Envelope.parse?_spelled hHeader _ _ _, rfl, rfl, rfl⟩

/-- A sealed token is taken apart into what it was put together from. -/
theorem parse?_sealToken (key : Key) (iv payload : Bytes) :
    ∃ envelope, Envelope.parse? (sealToken key iv payload).toList = some envelope ∧
      envelope.header = ⟨.gcm, false⟩ ∧ envelope.iv = iv ∧
      (envelope.ciphertext, envelope.tag) =
        Gcm.encrypt (Gcm.aes key.bytes) iv envelope.associated payload := by
  rw [← sealUnder_issued]
  exact parse?_sealUnder key parse?_issued iv payload

/-- A payload that was sealed with a key is opened with it, if the header names `A256GCM` and no
compression. -/
theorem openToken_sealUnder (key : Key) {headerBytes : Bytes}
    (hHeader : Header.parse? headerBytes = some ⟨.gcm, false⟩) {iv : Bytes} (hIv : iv ≠ [])
    (hShort : iv.length ≤ Envelope.maxIvLength) (payload : Bytes) :
    openToken key (sealUnder key headerBytes iv payload) = .ok payload := by
  obtain ⟨envelope, hParsed, hNamed, rfl, hSealed⟩ := parse?_sealUnder key hHeader iv payload
  obtain ⟨hText, hTag⟩ := Prod.mk.inj hSealed
  have hLength := Gcm.length_tag (Gcm.length_aes key.bytes) envelope.iv envelope.associated
    envelope.ciphertext
  have hFull : envelope.tag =
      Gcm.tag (Gcm.aes key.bytes) envelope.iv envelope.associated envelope.ciphertext := by
    rw [hTag, hText]
  have hSome : envelope.tag ≠ [] := List.ne_nil_of_length_pos (by rw [hFull, hLength]; decide)
  have hBody : envelope.body key = .ok payload := by
    rw [Envelope.body, hNamed]
    refine Envelope.decryptGcm_eq_ok_iff.mpr ⟨⟨hIv, hShort⟩, ⟨hSome, ?_⟩, ?_⟩
    · exact hFull ▸ List.prefix_rfl
    · rw [hText]
      exact Gcm.mask_mask (Gcm.length_aes key.bytes) envelope.iv payload
  unfold openToken
  rw [hParsed]
  dsimp only
  rw [Envelope.decrypt_eq, hBody, hNamed]
  rfl

/-- A sealed token is opened with the payload that was sealed. -/
theorem openToken_sealToken (key : Key) {iv : Bytes} (hIv : iv ≠ [])
    (hShort : iv.length ≤ Envelope.maxIvLength) (payload : Bytes) :
    openToken key (sealToken key iv payload) = .ok payload := by
  rw [← sealUnder_issued]
  exact openToken_sealUnder key parse?_issued hIv hShort payload

end Token

end Gatehouse
