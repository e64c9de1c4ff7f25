import Gatehouse.Proofs.Sealing

/-! How much of a tag is compared. Under one cipher all sixteen bytes must be there, under the other
one any of the beginnings of the full tag will do. -/
namespace Gatehouse.Token

namespace Envelope

/-- The sixteen bytes that the key, the vector, the header and the ciphertext determine. -/
def fullTag (key : Key) (envelope : Envelope) : Bytes :=
  match envelope.header.encryption with
  | .gcm => Gcm.tag (Gcm.aes key.bytes) envelope.iv envelope.associated envelope.ciphertext
  | .cbcHmac => CbcHmac.tag key.bytes envelope.iv envelope.associated envelope.ciphertext

theorem length_fullTag (key : Key) (envelope : Envelope) :
    (envelope.fullTag key).length = 16 := by
  unfold fullTag
  cases envelope.header.encryption with
  | gcm => exact Gcm.length_tag (Gcm.length_aes key.bytes) ..
  | cbcHmac => exact CbcHmac.length_tag ..

/-- The given tag passes for the full one. -/
def TagPasses (key : Key) (envelope : Envelope) : Prop :=
  match envelope.header.encryption with
  | .gcm => envelope.tag ≠ [] ∧ envelope.tag <+: envelope.fullTag key
  | .cbcHmac => envelope.tag = envelope.fullTag key

/-- A tag that passes is at least a beginning of the full one. -/
theorem TagPasses.isPrefix {key : Key} {envelope : Envelope} (h : envelope.TagPasses key) :
    envelope.tag <+: envelope.fullTag key := by
  unfold TagPasses at h
  split at h
  · exact h.2
  · exact h ▸ List.prefix_rfl

/-- Nothing is decrypted under a tag that does not pass. -/
theorem tagPasses_of_body {key : Key} {envelope : Envelope} {text : Bytes}
    (h : envelope.body key = .ok text) : envelope.TagPasses key := by
  unfold body at h
  unfold TagPasses fullTag
  cases hEncryption : envelope.header.encryption with
  | gcm =>
      rw [hEncryption] at h
      exact (decryptGcm_eq_ok_iff.mp h).2.1
  | cbcHmac =>
      rw [hEncryption] at h
      exact (decryptCbcHmac_eq_ok_iff.mp h).2.1.symm

/-- With any tag that passes, a message has the same text. -/
theorem body_of_tagPasses {key : Key} {envelope : Envelope} {text : Bytes}
    (h : envelope.body key = .ok text) {tag : Bytes}
    (hTag : { envelope with tag }.TagPasses key) : { envelope with tag }.body key = .ok text := by
  unfold body at h ⊢
  unfold TagPasses fullTag at hTag
  dsimp only at hTag ⊢
  cases hEncryption : envelope.header.encryption with
  | gcm =>
      rw [hEncryption] at h hTag
      obtain ⟨hIv, -, hText⟩ := decryptGcm_eq_ok_iff.mp h
      exact decryptGcm_eq_ok_iff.mpr ⟨hIv, hTag, hText⟩
  | cbcHmac =>
      rw [hEncryption] at h hTag
      obtain ⟨hShape, -, hText⟩ := decryptCbcHmac_eq_ok_iff.mp h
      exact decryptCbcHmac_eq_ok_iff.mpr ⟨hShape, hTag.symm, hText⟩

/-- The tag is looked at before the compression. -/
theorem tagPasses_of_decrypt {key : Key} {envelope : Envelope} {payload : Bytes}
    (h : envelope.decrypt key = .ok payload) : envelope.TagPasses key := by
  obtain ⟨text, hBody⟩ := exists_body_of_decrypt h
  exact tagPasses_of_body hBody

/-- Any other tag that passes gives the same payload. -/
theorem decrypt_of_tagPasses {key : Key} {envelope : Envelope} {payload : Bytes}
    (h : envelope.decrypt key = .ok payload) {tag : Bytes}
    (hTag : { envelope with tag }.TagPasses key) :
    { envelope with tag }.decrypt key = .ok payload := by
  obtain ⟨text, hBody⟩ := exists_body_of_decrypt h
  rw [decrypt_eq, hBody] at h
  rw [decrypt_eq, body_of_tagPasses hBody hTag]
  exact h

end Envelope

/-! ## Tokens -/

/-- The token with another tag in its last segment. -/
def retag (token : String) (tag : Bytes) : String :=
  String.ofList (joinSegments ((segments token.toList).dropLast ++ [Bytes.toBase64Url tag]))

/-- Under another tag a token has the same parts but for that. -/
theorem parse?_retag {token : String} {envelope : Envelope}
    (h : Envelope.parse? token.toList = some envelope) (tag : Bytes) :
    Envelope.parse? (retag token tag).toList = some { envelope with tag } := by
  obtain ⟨header, iv, ciphertext, oldTag, headerBytes, hSegments, hHeader, hParsed, hIv, hText, -,
    hAssociated⟩ := Envelope.parse?_eq_some_iff.mp h
  refine Envelope.parse?_eq_some_iff.mpr ⟨header, iv, ciphertext, Bytes.toBase64Url tag,
    headerBytes, ?_, hHeader, hParsed, hIv, hText, Bytes.ofBase64Url?_toBase64Url tag, hAssociated⟩
  have hDots : ∀ piece ∈ (segments token.toList).dropLast ++ [Bytes.toBase64Url tag],
      '.' ∉ piece := by
    intro piece hPiece
    rcases List.mem_append.mp hPiece with hPiece | hPiece
    · exact dot_not_mem_of_mem_segments ((List.dropLast_sublist _).subset hPiece)
    · rw [List.mem_singleton.mp hPiece]
      exact Bytes.dot_not_mem_toBase64Url tag
  rw [retag, String.toList_ofList, segments_joinSegments hDots (by simp), hSegments]
  rfl

/-- A token is judged by the payload of its envelope. -/
theorem verify_of_parse? {key : Key} {token : String} {now : Int} {envelope : Envelope}
    (h : Envelope.parse? token.toList = some envelope) :
    verify key token now = (envelope.decrypt key).bind fun payload =>
      match Claims.parse? payload with
      | none => .error (.error .invalid)
      | some claims => claims.check now := by
  unfold verify openToken
  rw [h]
  rfl

/-- Once opened, a token is judged by its claims alone. -/
theorem verify_of_openToken {key : Key} {token : String} {payload : Bytes} {claims : Claims}
    (hOpened : openToken key token = .ok payload) (hClaims : Claims.parse? payload = some claims)
    (now : Int) : verify key token now = claims.check now := by
  unfold verify
  rw [hOpened]
  change (match Claims.parse? payload with | none => _ | some claims => _) = _
  rw [hClaims]

/-- A token that is accepted was decrypted. -/
theorem exists_payload_of_verify {key : Key} {token : String} {now : Int} {claims : Claims}
    (hOk : verify key token now = .ok claims) :
    ∃ envelope payload, Envelope.parse? token.toList = some envelope ∧
      envelope.decrypt key = .ok payload := by
  cases hParsed : Envelope.parse? token.toList with
  | none =>
      unfold verify openToken at hOk
      rw [hParsed] at hOk
      cases hOk
  | some envelope =>
      rw [verify_of_parse? hParsed] at hOk
      cases hPayload : envelope.decrypt key with
      | ok payload => exact ⟨envelope, payload, rfl, hPayload⟩
      | error error =>
          rw [hPayload] at hOk
          cases hOk

/-- An accepted token is accepted with another tag, for the same claims, just if that tag passes. -/
theorem verify_retag_iff {key : Key} {token : String} {now : Int} {claims : Claims}
    (hOk : verify key token now = .ok claims) {envelope : Envelope}
    (hParsed : Envelope.parse? token.toList = some envelope) (tag : Bytes) :
    verify key (retag token tag) now = .ok claims ↔ { envelope with tag }.TagPasses key := by
  constructor
  · intro hRetagged
    obtain ⟨other, payload, hOther, hDecrypted⟩ := exists_payload_of_verify hRetagged
    rw [parse?_retag hParsed tag] at hOther
    cases hOther
    exact Envelope.tagPasses_of_decrypt hDecrypted
  · intro hTag
    obtain ⟨other, payload, hOther, hPayload⟩ := exists_payload_of_verify hOk
    rw [hParsed] at hOther
    cases hOther
    rw [verify_of_parse? hParsed, hPayload] at hOk
    rw [verify_of_parse? (parse?_retag hParsed tag), Envelope.decrypt_of_tagPasses hPayload hTag]
    exact hOk

/-- The token with only the first bytes of its tag. -/
def shorten (token : String) (count : Nat) : String :=
  match Envelope.parse? token.toList with
  | some envelope => retag token (envelope.tag.take count)
  | none => token

/-- A token whose tag is cut has the same parts but for that. -/
theorem parse?_shorten {token : String} {envelope : Envelope}
    (h : Envelope.parse? token.toList = some envelope) (count : Nat) :
    Envelope.parse? (shorten token count).toList =
      some { envelope with tag := envelope.tag.take count } := by
  rw [shorten, h]
  exact parse?_retag h _

/-- One byte of its tag is enough for a token under `A256GCM`. -/
theorem verify_shorten {key : Key} {token : String} {now : Int} {claims : Claims}
    (hOk : verify key token now = .ok claims) {envelope : Envelope}
    (hParsed : Envelope.parse? token.toList = some envelope)
    (hGcm : envelope.header.encryption = .gcm) {count : Nat} (hCount : 1 ≤ count) :
    verify key (shorten token count) now = .ok claims := by
  obtain ⟨other, payload, hOther, hPayload⟩ := exists_payload_of_verify hOk
  rw [hParsed] at hOther
  cases hOther
  have hPasses := Envelope.tagPasses_of_decrypt hPayload
  rw [shorten, hParsed]
  refine (verify_retag_iff hOk hParsed _).mpr ?_
  rw [Envelope.TagPasses, hGcm] at hPasses ⊢
  obtain ⟨hSome, hBegins⟩ := hPasses
  refine ⟨?_, (List.take_prefix count envelope.tag).trans hBegins⟩
  have hPositive := List.length_pos_iff.mpr hSome
  refine List.ne_nil_of_length_pos ?_
  rw [List.length_take]
  omega

/-- The tag of a token that verifies is a beginning of the full tag of sixteen bytes, and only if
it has sixteen bytes itself has all of the full tag been compared. With another tag the token
verifies just if that tag passes: under `A256GCM` every beginning of the full tag does, from one
byte on. -/
theorem accepted_tag_begins_full_tag {key : Key} {token : String} {now : Int} {claims : Claims}
    (hOk : verify key token now = .ok claims) :
    ∃ envelope, Envelope.parse? token.toList = some envelope ∧
      (envelope.fullTag key).length = 16 ∧ envelope.tag <+: envelope.fullTag key ∧
      (envelope.tag = envelope.fullTag key ↔ envelope.tag.length = 16) ∧
      ∀ tag, verify key (retag token tag) now = .ok claims ↔
        { envelope with tag }.TagPasses key := by
  obtain ⟨envelope, payload, hParsed, hPayload⟩ := exists_payload_of_verify hOk
  have hLength := envelope.length_fullTag key
  have hPrefix := (Envelope.tagPasses_of_decrypt hPayload).isPrefix
  refine ⟨envelope, hParsed, hLength, hPrefix, ⟨?_, ?_⟩, verify_retag_iff hOk hParsed⟩
  · intro hFull
    rw [hFull, hLength]
  · intro hSame
    exact hPrefix.eq_of_length (hSame.trans hLength.symm)

/-! ## A token -/

theorem length_sampleBytes : (List.replicate 32 (7 : UInt8)).length = 32 := rfl

def sampleKey : Key := ⟨List.replicate 32 7, length_sampleBytes⟩

def sampleClaims : Claims := ⟨42, "t1", .name "admin", 1700000000, 1700000000, 1700000060⟩

def sampleToken : String := issue sampleKey (List.replicate 12 1) sampleClaims

theorem verify_sampleToken : verify sampleKey sampleToken 1700000000 = .ok sampleClaims := by
  have hPayload : Claims.parse? (Bytes.ofText sampleClaims.payload) = some sampleClaims := rfl
  have hOpened : openToken sampleKey sampleToken = .ok (Bytes.ofText sampleClaims.payload) :=
    openToken_sealToken sampleKey (by decide) (by decide) _
  rw [verify_of_openToken hOpened hPayload]
  rfl

theorem verify_shorten_sampleToken {count : Nat} (hCount : 1 ≤ count) :
    verify sampleKey (shorten sampleToken count) 1700000000 = .ok sampleClaims := by
  obtain ⟨envelope, hParsed, hHeader, -⟩ := parse?_sealToken sampleKey (List.replicate 12 1)
    (Bytes.ofText sampleClaims.payload)
  have hGcm : envelope.header.encryption = .gcm := by rw [hHeader]
  exact verify_shorten verify_sampleToken hParsed hGcm hCount

/-- A single byte of the tag is enough for the sample token. -/
theorem short_tag_begins_full_tag :
    verify sampleKey (shorten sampleToken 1) 1700000000 = .ok sampleClaims ∧
      ∃ envelope, Envelope.parse? (shorten sampleToken 1).toList = some envelope ∧
        (envelope.fullTag sampleKey).length = 16 ∧
        envelope.tag <+: envelope.fullTag sampleKey ∧
        (envelope.tag = envelope.fullTag sampleKey ↔ envelope.tag.length = 16) ∧
        ∀ tag, verify sampleKey (retag (shorten sampleToken 1) tag) 1700000000 =
            .ok sampleClaims ↔ { envelope with tag }.TagPasses sampleKey :=
  ⟨verify_shorten_sampleToken (by decide),
    accepted_tag_begins_full_tag (verify_shorten_sampleToken (by decide))⟩

/-- An issued token is accepted with a single byte of its tag. -/
theorem one_byte_tag_accepted :
    verify sampleKey sampleToken 1700000000 = .ok sampleClaims ∧
      verify sampleKey (shorten sampleToken 1) 1700000000 = .ok sampleClaims ∧
      ∃ envelope, Envelope.parse? (shorten sampleToken 1).toList = some envelope ∧
        envelope.tag.length = 1 := by
  obtain ⟨envelope, hParsed, -, -, hSealed⟩ := parse?_sealToken sampleKey (List.replicate 12 1)
    (Bytes.ofText sampleClaims.payload)
  have hLength : envelope.tag.length = 16 := by
    rw [(Prod.mk.inj hSealed).2]
    exact Gcm.length_tag (Gcm.length_aes sampleKey.bytes) ..
  refine ⟨verify_sampleToken, verify_shorten_sampleToken (by decide), _,
    parse?_shorten hParsed 1, ?_⟩
  rw [List.length_take, hLength]
  rfl

end Gatehouse.Token
