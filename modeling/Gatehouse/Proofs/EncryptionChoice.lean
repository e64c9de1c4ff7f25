import Gatehouse.Proofs.Chaining
import Gatehouse.Proofs.TagStrength

/-! Which content encryption a token is opened with. The header of the token names it, and nothing
else is asked: a payload is judged the same under either encryption that works with the key. -/
namespace Gatehouse.Token

/-! ## Headers -/

/-- The name of a content encryption in a header. -/
def Encryption.name : Encryption → String
  | .gcm => "A256GCM"
  | .cbcHmac => "A128CBC-HS256"

/-- The members of the protected header of a token. -/
def headerMembers? (token : String) : Option (List (String × Json String)) :=
  match segments token.toList with
  | [] => none
  | header :: _ => (Bytes.ofBase64Url? header).bind fun bytes =>
    match Json.parseStrict? Header.maxLevels bytes with
    | some (.object members) => some members
    | _ => none

/-- The header uses the key directly, with this content encryption. -/
def Names (members : List (String × Json String)) (encryption : Encryption) : Prop :=
  last? "alg" members = some (.string "dir") ∧
    last? "enc" members = some (.string encryption.name)

/-- An encryption is known by its name. -/
theorem Header.encryption?_eq_some {value : Option (Json String)} {encryption : Encryption}
    (h : encryption? value = some encryption) : value = some (.string encryption.name) := by
  unfold encryption? at h
  split at h
  · cases h
    rfl
  · cases h
    rfl
  · cases h

theorem Header.eq_dir_of_usesKeyDirectly {value : Option (Json String)}
    (h : usesKeyDirectly value = true) : value = some (.string "dir") := by
  unfold usesKeyDirectly at h
  split at h
  · rfl
  · cases h

/-- A header that is accepted names the encryption that is taken from it. -/
theorem Header.names_of_ofMembers? {members : List (String × Json String)} {header : Header}
    (h : ofMembers? members = some header) : Names members header.encryption := by
  unfold ofMembers? at h
  split at h
  · next hShape =>
    simp only [Option.bind_eq_bind, Option.bind_eq_some_iff] at h
    obtain ⟨encryption, hEncryption, compressed, -, hHeader⟩ := h
    cases hHeader
    exact ⟨eq_dir_of_usesKeyDirectly hShape.2, encryption?_eq_some hEncryption⟩
  · cases h

/-- The encryption that a token is opened with is the one that its header names. -/
theorem names_of_parse? {token : String} {envelope : Envelope}
    (h : Envelope.parse? token.toList = some envelope) :
    ∃ members, headerMembers? token = some members ∧ Names members envelope.header.encryption := by
  obtain ⟨header, iv, ciphertext, tag, bytes, hSegments, hBytes, hParsed, -⟩ :=
    Envelope.parse?_eq_some_iff.mp h
  unfold Header.parse? at hParsed
  split at hParsed
  · next members hMembers =>
    refine ⟨members, ?_, Header.names_of_ofMembers? hParsed⟩
    simp only [headerMembers?, hSegments, hBytes, Option.bind_some, hMembers]
  · cases hParsed

/-! ## Sealing under either encryption -/

/-- The header of issued tokens, but with a content encryption of choice. -/
def Header.naming (encryption : Encryption) : Json String :=
  .object [("alg", .string "dir"), ("enc", .string encryption.name), ("typ", .string "JWT")]

/-- A header that names an encryption is parsed as such. -/
theorem parse?_naming (encryption : Encryption) :
    Header.parse? (Bytes.ofText (Header.naming encryption).render) =
      some ⟨encryption, false⟩ := by
  cases encryption <;> rfl

/-- The ciphertext and the tag of a payload. -/
def encryptAs (key : Key) (iv associated payload : Bytes) : Encryption → Bytes × Bytes
  | .gcm => Gcm.encrypt (Gcm.aes key.bytes) iv associated payload
  | .cbcHmac => CbcHmac.encrypt key.bytes iv associated payload

/-- The token of a payload, under a content encryption of choice. -/
def sealAs (encryption : Encryption) (key : Key) (iv payload : Bytes) : String :=
  let header := Bytes.toBase64Url (Bytes.ofText (Header.naming encryption).render)
  let associated : Bytes := header.map fun c => UInt8.ofNat c.toNat
  let (ciphertext, tag) := encryptAs key iv associated payload encryption
  String.ofList <| joinSegments
    [header, [], Bytes.toBase64Url iv, Bytes.toBase64Url ciphertext, Bytes.toBase64Url tag]

/-- One of the choices is how tokens are issued. -/
theorem sealAs_gcm (key : Key) (iv payload : Bytes) :
    sealAs .gcm key iv payload = sealToken key iv payload := rfl

/-- A sealed payload can be read again, under the encryption that was chosen for it. -/
theorem parse?_sealAs (encryption : Encryption) (key : Key) (iv payload : Bytes) :
    ∃ envelope, Envelope.parse? (sealAs encryption key iv payload).toList = some envelope ∧
      envelope.header = ⟨encryption, false⟩ ∧ envelope.iv = iv ∧
      (envelope.ciphertext, envelope.tag) =
        encryptAs key iv envelope.associated payload encryption := by
  unfold sealAs
  dsimp only
  rw [String.toList_ofList]
  exact ⟨_, Envelope.parse?_spelled (parse?_naming encryption) _ _ _, rfl, rfl, rfl⟩

/-- What is sealed names in its header how it was sealed. -/
theorem names_sealAs (encryption : Encryption) (key : Key) (iv payload : Bytes) :
    ∃ members, headerMembers? (sealAs encryption key iv payload) = some members ∧
      Names members encryption := by
  obtain ⟨envelope, hParsed, hHeader, -⟩ := parse?_sealAs encryption key iv payload
  obtain ⟨members, hMembers, hNames⟩ := names_of_parse? hParsed
  rw [hHeader] at hNames
  exact ⟨members, hMembers, hNames⟩

/-- A payload that was sealed under the other encryption than issued ones is opened as well. -/
theorem openToken_sealAs_cbcHmac (key : Key) {iv : Bytes} (hIv : 16 ≤ iv.length)
    (payload : Bytes) : openToken key (sealAs .cbcHmac key iv payload) = .ok payload := by
  obtain ⟨envelope, hParsed, hHeader, rfl, hSealed⟩ := parse?_sealAs .cbcHmac key iv payload
  obtain ⟨hText, hTag⟩ := Prod.mk.inj hSealed
  have hFound : CbcHmac.decrypt? key.bytes envelope.iv envelope.associated envelope.ciphertext
      envelope.tag = some payload := by
    rw [hText, hTag]
    exact CbcHmac.decrypt?_encrypt key.bytes hIv envelope.associated payload
  have hSome : ¬ envelope.iv.isEmpty := by
    rw [List.isEmpty_iff]
    exact List.ne_nil_of_length_pos (by omega)
  have hBody : envelope.body key = .ok payload := by
    rw [Envelope.body, hHeader]
    dsimp only
    rw [Envelope.decryptCbcHmac, if_neg hSome, if_neg (by omega), hFound]
  unfold openToken
  rw [hParsed]
  dsimp only
  rw [Envelope.decrypt_eq, hBody, hHeader]
  rfl

/-! ## Either encryption -/

/-- A token is judged by its payload, and not by how that was sealed. -/
theorem verify_congr {key : Key} {first second : String} {payload : Bytes}
    (hFirst : openToken key first = .ok payload) (hSecond : openToken key second = .ok payload)
    (now : Int) : verify key first now = verify key second now := by
  unfold verify
  rw [hFirst, hSecond]

/-- The header of a token that verifies uses the key directly and names one of two content
encryptions; which one is for the token to choose. Whatever is sealed with the key under
`A128CBC-HS256`, its first half taken to authenticate and its second half to encrypt, is judged at
every time just as it is when it is sealed as issued tokens are. -/
theorem encryption_chosen_by_token (key : Key) :
    (∀ token now claims, verify key token now = .ok claims →
      ∃ members encryption, headerMembers? token = some members ∧ Names members encryption) ∧
    ∀ issuedIv iv payload, issuedIv.length = 12 → 16 ≤ iv.length →
      (∃ members, headerMembers? (sealToken key issuedIv payload) = some members ∧
        Names members .gcm) ∧
      (∃ members, headerMembers? (sealAs .cbcHmac key iv payload) = some members ∧
        Names members .cbcHmac) ∧
      ∀ now, verify key (sealAs .cbcHmac key iv payload) now =
        verify key (sealToken key issuedIv payload) now := by
  refine ⟨?_, ?_⟩
  · intro token now claims hOk
    obtain ⟨envelope, payload, hParsed, -⟩ := exists_payload_of_verify hOk
    obtain ⟨members, hMembers, hNames⟩ := names_of_parse? hParsed
    exact ⟨members, envelope.header.encryption, hMembers, hNames⟩
  · intro issuedIv iv payload hIssuedIv hIv
    have hSome : issuedIv ≠ [] := List.ne_nil_of_length_pos (by omega)
    have hShort : issuedIv.length ≤ Envelope.maxIvLength := by
      rw [hIssuedIv]
      decide
    have hIssued := openToken_sealToken key hSome hShort payload
    have hNames := names_sealAs .gcm key issuedIv payload
    rw [sealAs_gcm] at hNames
    exact ⟨hNames, names_sealAs .cbcHmac key iv payload,
      verify_congr (openToken_sealAs_cbcHmac key hIv payload) hIssued⟩

/-! ## A token under the other encryption -/

/-- The claims of the sample, sealed with its key under the other encryption. -/
def chainedToken : String :=
  sealAs .cbcHmac sampleKey (List.replicate 16 1) (Bytes.ofText sampleClaims.payload)

/-- A token that no service has issued in this format is accepted. -/
theorem chained_token_accepted :
    verify sampleKey chainedToken 1700000000 = .ok sampleClaims ∧
      ∃ members, headerMembers? chainedToken = some members ∧
        last? "enc" members = some (.string "A128CBC-HS256") := by
  have hPayload : Claims.parse? (Bytes.ofText sampleClaims.payload) = some sampleClaims := rfl
  have hOpened : openToken sampleKey chainedToken = .ok (Bytes.ofText sampleClaims.payload) :=
    openToken_sealAs_cbcHmac sampleKey (by decide) _
  obtain ⟨members, hMembers, -, hNames⟩ := names_sealAs .cbcHmac sampleKey (List.replicate 16 1)
    (Bytes.ofText sampleClaims.payload)
  refine ⟨?_, members, hMembers, hNames⟩
  rw [verify_of_openToken hOpened hPayload]
  rfl

end Gatehouse.Token
