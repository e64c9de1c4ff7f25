import Gatehouse.Boot
import Gatehouse.Proofs.FirstValues
import Gatehouse.Proofs.Hexadecimal
import Gatehouse.Proofs.Startup
import Gatehouse.Proofs.TenantBinding

/-! What an accepted configuration is good for. The name of its setting is plain enough to stand
anywhere. Its secret has the size of a key, but of its characters nothing is asked, so a secret with
anything but digits in it is found out only when the key is made. -/
namespace Gatehouse

/-! ## Accepted configurations -/

namespace Config

variable {env : Environment} {config : Config}

/-- Whatever the port, the faults are looked for, and the rest of the configuration is as stated. -/
theorem exists_meets (env : Environment) :
    ∃ plain : Environment, (∀ key, key ≠ "PORT" → plain.get? key = env.get? key) ∧
      Meets plain faults (Reflects plain) (ofEnvironment env) := by
  by_cases hPort : badPort.Occurs env
  · refine ⟨env.unset "PORT", fun key => env.get?_unset_of_ne, ?_⟩
    rw [ofEnvironment_unset hPort]
    exact meets_ofEnvironment _ (givenOr_port (not_occurs_unset env))
  · exact ⟨env, fun _ _ => rfl, meets_ofEnvironment env (givenOr_port hPort)⟩

/-- The service starts only with a setting name that the database will take. -/
theorem isName_of_accepted (h : ofEnvironment env = .ok config) :
    Setting.IsName config.tenantSetting.toList := by
  obtain ⟨plain, -, hMeets⟩ := exists_meets env
  rw [h] at hMeets
  have hSetting := hMeets.2.tenantSetting
  generalize config.tenantSetting = name at hSetting ⊢
  cases hSetting with
  | given _ hName => exact hName.2
  | default _ => exact Setting.isValidName_iff.mp (by decide)

end Config

/-! ## Names of settings -/

namespace Setting

/-- The three quotes, which end names and texts, and the semicolon, which ends statements. -/
def terminators : List Char :=
  ['\x27', '\x22', '\x60', ';']

/-- Letters, digits, underscores and dots are ASCII, and no blanks, quotes or semicolons. -/
theorem IsName.plain {name : List Char} (h : IsName name) {c : Char} (hc : c ∈ name) :
    c.toNat < 128 ∧ Text.isBlank c = false ∧ c ∉ terminators := by
  have hChar : isIdentifierChar c = true ∨ c = '.' := by
    obtain ⟨qualifier, rest, rfl, hQualifier, hRest⟩ := h
    rcases List.mem_append.mp hc with hc | hc
    · exact .inl (hQualifier.isIdentifierChar c hc)
    · rcases List.mem_cons.mp hc with rfl | hc
      · exact .inr rfl
      · exact .inl (hRest.isIdentifierChar c hc)
  have hBound : c.toNat < 128 := by
    rw [isIdentifierChar_iff] at hChar
    rcases hChar with (hLetter | hDigit | rfl) | rfl
    · exact Text.lt_of_isLetter hLetter
    · exact Text.lt_of_isDigit hDigit
    · decide
    · decide
  refine ⟨hBound, Text.ascii_forall (P := fun c => isIdentifierChar c = true ∨ c = '.' →
    Text.isBlank c = false ∧ c ∉ terminators) (by decide) hBound hChar⟩

/-- The one dot of such a name stands between its two parts. -/
theorem IsName.count_dot {name : List Char} (h : IsName name) : name.count '.' = 1 := by
  obtain ⟨qualifier, rest, rfl, hQualifier, hRest⟩ := h
  rw [List.count_append, List.count_cons_self, List.count_eq_zero.mpr hQualifier.dot_not_mem,
    List.count_eq_zero.mpr hRest.dot_not_mem]

/-- The names of settings are just two identifiers with a dot between, so there is nothing in them that
ends a name or means something else. A service with an accepted configuration binds tenants to no other
name. -/
theorem setting_name_exact (name : String) :
    (isValidName name.toList = true ↔ IsName name.toList) ∧
    (isValidName name.toList = true → name.toList.count '.' = 1 ∧
      ∀ c ∈ name.toList, c.toNat < 128 ∧ Text.isBlank c = false ∧ c ∉ terminators) ∧
    ∀ env config, Config.ofEnvironment env = .ok config →
      ∀ (σ : Type) (world : World σ) deadline key access handler request scene value,
        .bind name value ∈ callsOf ((Pipeline.apply (config.gate key) access handler request).run
          world deadline scene).trace → isValidName name.toList = true := by
  refine ⟨isValidName_iff, fun h => ?_, fun env config hConfig σ world deadline key access handler
    request scene value hBind => ?_⟩
  · have hName := isValidName_iff.mp h
    exact ⟨hName.count_dot, fun c hc => hName.plain hc⟩
  · obtain ⟨rfl, -⟩ := Pipeline.bind_of_apply hBind
    exact isValidName_iff.mpr (Config.isName_of_accepted hConfig)

end Setting

/-! ## Keys -/

namespace Bytes

theorem length_ofText (text : String) : (ofText text).length = text.utf8ByteSize := by
  simp [ofText]

theorem utf8ByteSize_of_isHexDigit {text : List Char} (h : ∀ c ∈ text, IsHexDigit c) :
    (String.ofList text).utf8ByteSize = text.length := by
  rw [← length_ofText, ofText_ofList_of_ascii fun c hc => (h c hc).lt, List.length_map]

end Bytes

namespace Token.Key

/-- The text, without the blanks around it, is the key in hexadecimal digits of either case. -/
def Spells (text : String) (key : Key) : Prop :=
  Text.lower (Text.trim text.toList) = Bytes.toHex key.bytes

instance (text : String) (key : Key) : Decidable (Spells text key) :=
  inferInstanceAs (Decidable (_ = _))

variable {text : String}

/-- A key is taken from the texts that spell it and from no others. -/
theorem ofHex_eq_ok_iff {key : Key} : ofHex text = .ok key ↔ Spells text key := by
  rw [Spells, ← Bytes.ofHex?_eq_some_iff, ofHex]
  constructor
  · intro h
    split at h
    · cases h
    · next bytes hBytes =>
      unfold ofBytes at h
      split at h
      · cases h
        exact hBytes
      · cases h
  · intro h
    rw [h]
    exact dif_pos key.length_eq

/-- One character that is no digit spoils the whole text. -/
theorem ofHex_of_not_isHexDigit (h : ∃ c ∈ Text.trim text.toList, ¬ Bytes.IsHexDigit c) :
    ofHex text = .error .keyEncoding := by
  obtain ⟨c, hc, hNot⟩ := h
  have hNone : Bytes.ofHex? (Text.trim text.toList) = none :=
    Option.eq_none_iff_forall_ne_some.mpr fun bytes hBytes =>
      hNot ((Bytes.exists_ofHex?_iff.mp ⟨bytes, hBytes⟩).2 c hc)
  rw [ofHex, hNone]

/-- A text is a key if it has 64 bytes and all its characters are digits. -/
theorem exists_spells_iff :
    (∃ key, Spells text key) ↔ (String.ofList (Text.trim text.toList)).utf8ByteSize = 64 ∧
      ∀ c ∈ Text.trim text.toList, Bytes.IsHexDigit c := by
  constructor
  · rintro ⟨key, hKey⟩
    have hRead := Bytes.ofHex?_eq_some_iff.mpr hKey
    have hDigits := (Bytes.exists_ofHex?_iff.mp ⟨_, hRead⟩).2
    rw [Bytes.utf8ByteSize_of_isHexDigit hDigits, Bytes.length_of_ofHex? hRead, key.length_eq]
    exact ⟨rfl, hDigits⟩
  · rintro ⟨hSize, hDigits⟩
    rw [Bytes.utf8ByteSize_of_isHexDigit hDigits] at hSize
    obtain ⟨bytes, hRead, hLength⟩ := (Bytes.exists_ofHex?_length_iff 32).mpr ⟨hSize, hDigits⟩
    exact ⟨⟨bytes, hLength⟩, Bytes.ofHex?_eq_some_iff.mp hRead⟩

end Token.Key

/-! ## Secrets -/

namespace Config

open Token (Key)

/-- The text, without the blanks around it, has the size of a key, but is none: not all of its
characters are digits. -/
def IsMisspelt (text : String) : Prop :=
  (String.ofList (Text.trim text.toList)).utf8ByteSize = 64 ∧
    ∃ c ∈ Text.trim text.toList, ¬ Bytes.IsHexDigit c

/-- What is looked for before the secret. -/
def earlierFaults : List Fault :=
  [.unset "DATABASE_URL", .unusable "DATABASE_MAX_CONNECTIONS" IsU32, .unset "REDIS_URL"]

/-- Of a text that is long enough, the digits alone decide. -/
theorem exists_spells_iff_not_isMisspelt {text secret : String} (h : IsSecret text secret) :
    (∃ key, Key.Spells text key) ↔ ¬ IsMisspelt text := by
  have hSize := h.2
  rw [h.1] at hSize
  simp [Key.exists_spells_iff, IsMisspelt, hSize]

theorem spells_secret_iff {text secret : String} (h : IsSecret text secret) {key : Key} :
    Key.Spells secret key ↔ Key.Spells text key := by
  rw [Key.Spells, h.1, String.toList_ofList, Text.trim_trim]
  rfl

/-- A configuration that was accepted is still refused if its secret is no key. -/
theorem boot_of_not_key (network : Network) (hConfig : ofEnvironment env = .ok config)
    (hKey : Key.ofHex config.tokenSecret = .error .keyEncoding) :
    boot network env = .error .secret := by
  unfold boot
  rw [hConfig]
  change (Key.ofHex config.tokenSecret).mapError _ >>= _ = _
  rw [hKey]
  rfl

/-- There is one fault only that names the secret as invalid. -/
theorem fault_of_invalid_secret : ∀ fault ∈ faults,
    fault.error = .invalid "TOKEN_SECRET_HEX" →
      fault = .unusable "TOKEN_SECRET_HEX" IsSecret := by
  simp [faults, rateLimitFaults, Fault.unset, Fault.unusable, Fault.zero]

/-- The error for the secret is that of its size. -/
theorem invalid_secret_iff {text : String} (hText : env.get? "TOKEN_SECRET_HEX" = some text)
    (hEarlier : ∀ fault ∈ earlierFaults, ¬ fault.Occurs env) :
    ofEnvironment env = .error (.invalid "TOKEN_SECRET_HEX") ↔
      (String.ofList (Text.trim text.toList)).utf8ByteSize ≠ 64 := by
  obtain ⟨plain, hPlain, hMeets⟩ := exists_meets env
  have hSame : plain.get? "TOKEN_SECRET_HEX" = some text := (hPlain _ (by decide)).trans hText
  have hNone : ∀ fault ∈ earlierFaults, ¬ fault.Occurs plain := by
    simpa [earlierFaults, Fault.unset, Fault.unusable, hPlain "DATABASE_URL" (by decide),
      hPlain "DATABASE_MAX_CONNECTIONS" (by decide), hPlain "REDIS_URL" (by decide)] using hEarlier
  constructor
  · intro hError hSize
    rw [hError] at hMeets
    obtain ⟨fault, hFault, hInvalid, hOccurs⟩ := First.exists_occurs hMeets
    obtain rfl := fault_of_invalid_secret fault hFault hInvalid
    obtain ⟨other, hOther, hNot⟩ := hOccurs
    cases hSame.symm.trans hOther
    exact hNot _ ⟨rfl, hSize⟩
  · intro hSize
    have hSecret : Meets plain (.unset "TOKEN_SECRET_HEX" ::
        .unusable "TOKEN_SECRET_HEX" IsSecret :: faults.drop 5) (Reflects plain)
        (.error (.invalid "TOKEN_SECRET_HEX")) := by
      refine .later (fun hUnset => ?_) (.here ⟨text, hSame, fun secret hSecret => hSize ?_⟩)
      · cases hSame.symm.trans hUnset
      · exact hSecret.1 ▸ hSecret.2
    have hFirst : Meets plain (earlierFaults ++ .unset "TOKEN_SECRET_HEX" ::
        .unusable "TOKEN_SECRET_HEX" IsSecret :: faults.drop 5) (Reflects plain)
        (.error (.invalid "TOKEN_SECRET_HEX")) := hSecret.append hNone
    exact Meets.unique Reflects.unique hMeets hFirst

/-- The secret of an accepted configuration is a key unless it has the size of one with other
characters than digits in it, and then the service refuses it only after the configuration. The
configuration itself is refused just for a secret of another size. -/
theorem secret_usable_unless_misspelt (env : Environment) :
    (∀ config, ofEnvironment env = .ok config → ∃ text,
      env.get? "TOKEN_SECRET_HEX" = some text ∧
      ((∃ key, Key.ofHex config.tokenSecret = .ok key ∧ Key.Spells text key) ↔
        ¬ IsMisspelt text) ∧
      (IsMisspelt text → Key.ofHex config.tokenSecret = .error .keyEncoding ∧
        ∀ network, boot network env = .error .secret)) ∧
    ∀ text, env.get? "TOKEN_SECRET_HEX" = some text →
      (∀ fault ∈ earlierFaults, ¬ fault.Occurs env) →
        (ofEnvironment env = .error (.invalid "TOKEN_SECRET_HEX") ↔
          (∀ key, ¬ Key.Spells text key) ∧ ¬ IsMisspelt text) := by
  refine ⟨fun config hConfig => ?_, fun text hText hEarlier => ?_⟩
  · obtain ⟨plain, hPlain, hMeets⟩ := exists_meets env
    rw [hConfig] at hMeets
    obtain ⟨text, hText, hSecret⟩ := hMeets.2.tokenSecret
    rw [hPlain _ (by decide)] at hText
    refine ⟨text, hText, ?_, fun hMisspelt => ?_⟩
    · simp only [Key.ofHex_eq_ok_iff, spells_secret_iff hSecret, and_self]
      exact exists_spells_iff_not_isMisspelt hSecret
    · obtain ⟨-, c, hc, hNot⟩ := hMisspelt
      have hKey : Key.ofHex config.tokenSecret = .error .keyEncoding := by
        refine Key.ofHex_of_not_isHexDigit ⟨c, ?_, hNot⟩
        rwa [hSecret.1, String.toList_ofList, Text.trim_trim]
      exact ⟨hKey, fun network => boot_of_not_key network hConfig hKey⟩
  · rw [invalid_secret_iff hText hEarlier, ← not_exists, Key.exists_spells_iff, IsMisspelt]
    constructor
    · exact fun hSize => ⟨fun h => hSize h.1, fun h => hSize h.1⟩
    · rintro ⟨hNoKey, hRight⟩ hSize
      refine hNoKey ⟨hSize, fun c hc => ?_⟩
      by_contra hNot
      exact hRight ⟨hSize, c, hc, hNot⟩

/-- The variables that are required, with a secret that has no digits in it. -/
def misspelt : Environment :=
  ⟨[("DATABASE_URL", "postgres://u:p@db/app"), ("REDIS_URL", "redis://cache:6379"),
    ("TOKEN_SECRET_HEX", "zzzzzzzzzzzzzzzzzzzzzzzzzzzzzzzzzzzzzzzzzzzzzzzzzzzzzzzzzzzzzzzz")]⟩

/-- The misspelt secret should be told as an invalid setting; it is accepted, and then it is no key. -/
theorem misspelt_secret_accepted :
    ∃ config, ofEnvironment misspelt = .ok config ∧
      (∀ key, Key.ofHex config.tokenSecret ≠ .ok key) ∧
      ∀ network, boot network misspelt = .error .secret := by
  obtain ⟨config, hConfig⟩ : ∃ config, ofEnvironment misspelt = .ok config := ⟨_, rfl⟩
  have hSecret : (ofEnvironment misspelt).map Config.tokenSecret =
      .ok "zzzzzzzzzzzzzzzzzzzzzzzzzzzzzzzzzzzzzzzzzzzzzzzzzzzzzzzzzzzzzzzz" := by
    decide
  rw [hConfig] at hSecret
  have hKey : Key.ofHex config.tokenSecret = .error .keyEncoding := by
    rw [Except.ok.inj hSecret]
    exact Key.ofHex_of_not_isHexDigit ⟨'z', by decide, by decide⟩
  refine ⟨config, hConfig, fun key hOk => ?_, fun network => boot_of_not_key network hConfig hKey⟩
  cases hKey.symm.trans hOk

end Config

end Gatehouse
