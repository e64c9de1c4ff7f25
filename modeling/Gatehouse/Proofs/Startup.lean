import Gatehouse.Proofs.Wording

/-! What an environment makes of the service. Everything that can be wrong with a variable is a fault of
its own, the faults are looked for in a fixed order, and the first one that occurs is told. If none
does, the configuration holds what is given, and the defaults of what is not. There is one fault that
is not told: a port that cannot be used counts as none. -/
namespace Gatehouse

namespace Environment

/-- The environment without a variable. -/
def unset (env : Environment) (name : String) : Environment :=
  ⟨env.entries.filter fun entry => entry.1 != name⟩

theorem get?_unset_self (env : Environment) (name : String) : (env.unset name).get? name = none := by
  simp only [get?, unset, List.lookup_eq_none_iff, List.mem_filter, bne_iff_ne]
  exact fun entry hEntry => hEntry.2.symm

theorem get?_unset_of_ne (env : Environment) {name other : String} (h : other ≠ name) :
    (env.unset name).get? other = env.get? other := by
  unfold get? unset
  induction env.entries with
  | nil => rfl
  | cons entry rest ih =>
      obtain ⟨key, value⟩ := entry
      by_cases hKey : key = name
      · subst hKey
        have hOther : (other == key) = false := beq_eq_false_iff_ne.mpr h
        simp [List.lookup_cons, ih, hOther]
      · simp [hKey, List.lookup_cons, ih]

end Environment

namespace Config

variable {env : Environment} {key : String} {α β : Type}

/-! ## Faults -/

/-- Something in an environment that keeps the service from starting. -/
structure Fault where
  error : ConfigError
  Occurs : Environment → Prop

/-- A variable that has to be set is not. -/
def Fault.unset (key : String) : Fault :=
  ⟨.missing key, fun env => env.get? key = none⟩

/-- A variable is set to a text that stands for no value. -/
def Fault.unusable (key : String) (Spells : String → α → Prop) : Fault :=
  ⟨.invalid key, fun env => ∃ text, env.get? key = some text ∧ ∀ value, ¬ Spells text value⟩

/-- The first of the faults that occurs has this error. -/
inductive First (env : Environment) : List Fault → ConfigError → Prop
  | here {fault : Fault} {rest : List Fault} : fault.Occurs env →
      First env (fault :: rest) fault.error
  | later {fault : Fault} {rest : List Fault} {error : ConfigError} : ¬ fault.Occurs env →
      First env rest error → First env (fault :: rest) error

/-- A variable is set to a text that stands for the value, or it is unset and the value is the
default. -/
inductive GivenOr (env : Environment) (key : String) (Spells : String → α → Prop) (default : α) :
    α → Prop
  | given {text : String} {value : α} : env.get? key = some text → Spells text value →
      GivenOr env key Spells default value
  | default : env.get? key = none → GivenOr env key Spells default default

/-- A fault is told if one of these occurs, the first one, and otherwise there is a value as stated. -/
def Meets (env : Environment) (faults : List Fault) (States : α → Prop) :
    Except ConfigError α → Prop
  | .error error => First env faults error
  | .ok value => (∀ fault ∈ faults, ¬ fault.Occurs env) ∧ States value

/-- The first fault comes before all that are added. -/
theorem First.append_right {faults : List Fault} {error : ConfigError} (h : First env faults error)
    (others : List Fault) : First env (faults ++ others) error := by
  induction h with
  | here hOccurs => exact .here hOccurs
  | later hNot _ ih => exact .later hNot ih

/-- The error is that of a fault which occurs. -/
theorem First.exists_occurs {faults : List Fault} {error : ConfigError} (h : First env faults error) :
    ∃ fault ∈ faults, fault.error = error ∧ fault.Occurs env := by
  induction h with
  | @here fault rest hOccurs => exact ⟨fault, List.mem_cons_self .., rfl, hOccurs⟩
  | later _ _ ih => exact ih.imp fun fault hFault => ⟨List.mem_cons_of_mem _ hFault.1, hFault.2⟩

/-- There is one first fault. -/
theorem First.unique {faults : List Fault} {error other : ConfigError} (h : First env faults error)
    (hOther : First env faults other) : error = other := by
  induction h with
  | here hOccurs =>
      cases hOther with
      | here _ => rfl
      | later hNot _ => exact (hNot hOccurs).elim
  | later hNot _ ih =>
      cases hOther with
      | here hOccurs => exact (hNot hOccurs).elim
      | later _ hOther => exact ih hOther

theorem meets_ok {States : α → Prop} {value : α} (h : States value) :
    Meets env [] States (.ok value) :=
  ⟨fun _ hFault => (List.not_mem_nil hFault).elim, h⟩

/-- A fault that does not occur may be looked for as well. -/
theorem Meets.cons {fault : Fault} {faults : List Fault} {States : α → Prop}
    {outcome : Except ConfigError α} (hNot : ¬ fault.Occurs env)
    (h : Meets env faults States outcome) : Meets env (fault :: faults) States outcome := by
  cases outcome with
  | error error => exact .later hNot h
  | ok value => exact ⟨List.forall_mem_cons.mpr ⟨hNot, h.1⟩, h.2⟩

/-- What comes after faults that do not occur is met or not by itself. -/
theorem Meets.append {faults others : List Fault} {States : α → Prop}
    {outcome : Except ConfigError α} (hNone : ∀ fault ∈ faults, ¬ fault.Occurs env)
    (h : Meets env others States outcome) : Meets env (faults ++ others) States outcome := by
  induction faults with
  | nil => exact h
  | cons fault rest ih =>
      obtain ⟨hNot, hRest⟩ := List.forall_mem_cons.mp hNone
      exact (ih hRest).cons hNot

/-- The faults of two steps are looked for one after another. -/
theorem Meets.bind {faults others : List Fault} {Given : α → Prop} {States : β → Prop}
    {step : Except ConfigError α} {next : α → Except ConfigError β}
    (hStep : Meets env faults Given step)
    (hNext : ∀ value, Given value → Meets env others States (next value)) :
    Meets env (faults ++ others) States (step >>= next) := by
  cases step with
  | error error => exact hStep.append_right others
  | ok value => exact (hNext value hStep.2).append hStep.1

/-- A check that fails just where a fault occurs. -/
theorem Meets.unless {fault : Fault} {faults : List Fault} {States : α → Prop}
    {outcome : Except ConfigError α} {condition : Prop} [Decidable condition]
    (hFault : fault.Occurs env ↔ condition)
    (hRest : ¬ condition → Meets env faults States outcome) :
    Meets env (fault :: faults) States (if condition then .error fault.error else outcome) := by
  split
  · next hCondition => exact .here (hFault.mpr hCondition)
  · next hCondition => exact (hRest hCondition).cons (mt hFault.mp hCondition)

/-- At most one value meets the statement, and so there is one outcome at most. -/
theorem Meets.unique {faults : List Fault} {States : α → Prop} {outcome other : Except ConfigError α}
    (hStates : ∀ {value another}, States value → States another → value = another)
    (h : Meets env faults States outcome) (hOther : Meets env faults States other) :
    outcome = other := by
  cases outcome with
  | error error =>
      cases other with
      | error another => exact congrArg Except.error (First.unique h hOther)
      | ok value => exact (First.exists_occurs h).elim fun fault hFault =>
          (hOther.1 fault hFault.1 hFault.2.2).elim
  | ok value =>
      cases other with
      | error another => exact (First.exists_occurs hOther).elim fun fault hFault =>
          (h.1 fault hFault.1 hFault.2.2).elim
      | ok another => exact congrArg Except.ok (hStates h.2 hOther.2)

/-! ## Single variables -/

/-- A variable gives one value if no text spells two. -/
theorem GivenOr.unique {Spells : String → α → Prop} {default value other : α}
    (h : GivenOr env key Spells default value) (hOther : GivenOr env key Spells default other)
    (hSpells : ∀ {text value other}, Spells text value → Spells text other → value = other) :
    value = other := by
  cases h with
  | given hText hValue =>
      cases hOther with
      | given hSame hOther =>
          cases hText.symm.trans hSame
          exact hSpells hValue hOther
      | default hUnset => cases hText.symm.trans hUnset
  | default hUnset =>
      cases hOther with
      | given hText _ => cases hUnset.symm.trans hText
      | default _ => rfl

/-- A required variable is there, or its absence is the error. -/
theorem meets_required (env : Environment) (key : String) :
    Meets env [.unset key] (fun text => env.get? key = some text) (required env key) := by
  unfold required
  cases hText : env.get? key with
  | none => exact .here hText
  | some text =>
      refine (meets_ok rfl).cons fun hUnset => ?_
      cases hUnset.symm.trans hText

/-- What a reader of texts makes of one variable, by what the texts stand for. -/
theorem meets_given {Spells : String → α → Prop} {default : α} {outcome : Except ConfigError α}
    (hUnset : env.get? key = none → outcome = .ok default)
    (hValue : ∀ {text value}, env.get? key = some text → Spells text value → outcome = .ok value)
    (hNone : ∀ {text}, env.get? key = some text → (∀ value, ¬ Spells text value) →
      outcome = .error (.invalid key)) :
    Meets env [.unusable key Spells] (GivenOr env key Spells default) outcome := by
  cases hText : env.get? key with
  | none =>
      rw [hUnset hText]
      refine (meets_ok (.default hText)).cons ?_
      rintro ⟨text, hSome, -⟩
      cases hText.symm.trans hSome
  | some text =>
      by_cases hSpelt : ∃ value, Spells text value
      · obtain ⟨value, hSpelt⟩ := hSpelt
        rw [hValue hText hSpelt]
        refine (meets_ok (.given hText hSpelt)).cons ?_
        rintro ⟨other, hSome, hOther⟩
        cases hText.symm.trans hSome
        exact hOther value hSpelt
      · have hNot : ∀ value, ¬ Spells text value := fun value h => hSpelt ⟨value, h⟩
        rw [hNone hText hNot]
        exact .here ⟨text, hText, hNot⟩

/-- What is read of a text after trimming. -/
def Trimmed (Spells : List Char → α → Prop) (text : String) (value : α) : Prop :=
  Spells (Text.trim text.toList) value

/-- A variable with a default is spelled right, or not set, or else it is invalid. -/
theorem meets_readOr {read? : List Char → Option α} {Spells : List Char → α → Prop}
    (hRead : ∀ {text value}, read? text = some value ↔ Spells text value) (env : Environment)
    (key : String) (default : α) :
    Meets env [.unusable key (Trimmed Spells)] (GivenOr env key (Trimmed Spells) default)
      (readOr env key read? default) := by
  refine meets_given (fun hUnset => ?_) (fun hText hValue => ?_) (fun hText hNone => ?_)
  · simp only [readOr, hUnset]
  · simp only [readOr, hText, hRead.mpr hValue]
  · have hNothing := Option.eq_none_iff_forall_ne_some.mpr fun value =>
      mt hRead.mp (hNone value)
    simp only [readOr, hText, hNothing]

/-- The secret is the text without the blanks around it, and has 64 bytes. -/
def IsSecret (text secret : String) : Prop :=
  secret = String.ofList (Text.trim text.toList) ∧ secret.utf8ByteSize = 64

/-- A text that stands for itself where it is the name of a setting. -/
def IsSettingName (text name : String) : Prop :=
  name = text ∧ Setting.IsName name.toList

/-- The secret has to be there and to be of the right size. -/
theorem meets_secret (env : Environment) :
    Meets env [.unset "TOKEN_SECRET_HEX", .unusable "TOKEN_SECRET_HEX" IsSecret]
      (fun secret => ∃ text, env.get? "TOKEN_SECRET_HEX" = some text ∧ IsSecret text secret)
      (secret env) := by
  refine (meets_required env _).bind fun text hText => ?_
  dsimp only
  split
  · next hSize =>
    refine (meets_ok ⟨text, hText, rfl, hSize⟩).cons ?_
    rintro ⟨other, hSome, hOther⟩
    cases hText.symm.trans hSome
    exact hOther _ ⟨rfl, hSize⟩
  · next hSize =>
    refine .here ⟨text, hText, fun value hValue => hSize ?_⟩
    exact hValue.1 ▸ hValue.2

/-- The mode is one of its two words, and lenient by default. -/
theorem meets_failModeOf (env : Environment) :
    Meets env [.unusable "RATE_LIMIT_FAIL_MODE" RateLimit.FailMode.Spells]
      (GivenOr env "RATE_LIMIT_FAIL_MODE" RateLimit.FailMode.Spells .lenient) (failModeOf env) := by
  refine meets_given (fun hUnset => ?_) (fun hText hValue => ?_) (fun {text} hText hNone => ?_)
  · simp only [failModeOf, hUnset]
  · simp only [failModeOf, hText, RateLimit.FailMode.parse_eq_ok_iff.mpr hValue]
  · cases hParse : RateLimit.FailMode.parse text with
    | ok mode => exact (hNone mode (RateLimit.FailMode.parse_eq_ok_iff.mp hParse)).elim
    | error word => simp only [failModeOf, hText, hParse]

/-- The setting has to have a name that the database takes. -/
theorem meets_tenantSettingOf (env : Environment) :
    Meets env [.unusable "RLS_TENANT_SETTING" IsSettingName]
      (GivenOr env "RLS_TENANT_SETTING" IsSettingName defaultTenantSetting)
      (tenantSettingOf env) := by
  refine meets_given (fun hUnset => ?_) (fun hText hValue => ?_) (fun hText hNone => ?_)
  · have hDefault : Setting.isValidName defaultTenantSetting.toList = true := by decide
    simp [tenantSettingOf, hUnset, hDefault]
  · have hValid := Setting.isValidName_iff.mpr hValue.2
    simp [tenantSettingOf, hText, ← hValue.1, hValid]
  · have hWrong := mt Setting.isValidName_iff.mp fun hName => hNone _ ⟨rfl, hName⟩
    simp [tenantSettingOf, hText, hWrong]

/-! ## The rate limit -/

/-- A variable is set to zero. -/
def Fault.zero (key : String) (Spells : String → Nat → Prop) : Fault :=
  ⟨.invalid key, fun env => ∃ text, env.get? key = some text ∧ Spells text 0⟩

/-- A zero can only come from the variable. -/
theorem GivenOr.zero_occurs_iff {Spells : String → Nat → Prop} {default n : Nat}
    (h : GivenOr env key Spells default n)
    (hSpells : ∀ {text value other}, Spells text value → Spells text other → value = other)
    (hDefault : default ≠ 0) :
    (Fault.zero key Spells).Occurs env ↔ n = 0 := by
  cases h with
  | given hText hValue =>
      constructor
      · rintro ⟨text, hSame, hZero⟩
        cases hText.symm.trans hSame
        exact hSpells hValue hZero
      · rintro rfl
        exact ⟨_, hText, hValue⟩
  | default hUnset =>
      refine iff_of_false ?_ hDefault
      rintro ⟨text, hSame, -⟩
      cases hUnset.symm.trans hSame

/-- Numbers of 32 bits, with any blanks around them. -/
def IsU32 : String → Nat → Prop :=
  Trimmed (Text.SpellsNat Text.maxU32)

/-- Numbers of 64 bits, with any blanks around them. -/
def IsU64 : String → Nat → Prop :=
  Trimmed (Text.SpellsNat Text.maxU64)

theorem meets_u32 (env : Environment) (key : String) (default : Nat) :
    Meets env [.unusable key IsU32] (GivenOr env key IsU32 default)
      (readOr env key readU32? default) :=
  meets_readOr Text.readNat?_eq_some_iff env key default

theorem meets_u64 (env : Environment) (key : String) (default : Nat) :
    Meets env [.unusable key IsU64] (GivenOr env key IsU64 default)
      (readOr env key readU64? default) :=
  meets_readOr Text.readNat?_eq_some_iff env key default

def rateLimitFaults : List Fault :=
  [.unusable "RATE_LIMIT_RATE" IsU32, .unusable "RATE_LIMIT_BURST" IsU32,
    .unusable "RATE_LIMIT_PERIOD_SECONDS" IsU64, .zero "RATE_LIMIT_RATE" IsU32,
    .zero "RATE_LIMIT_PERIOD_SECONDS" IsU64]

/-- The rate limit that an environment asks for. -/
structure RateLimitReflects (env : Environment) (config : RateLimit.Config) : Prop where
  name : GivenOr env "RATE_LIMIT_NAME" Eq "global" config.name
  rate : GivenOr env "RATE_LIMIT_RATE" IsU32 100 config.limit.rate
  burst : GivenOr env "RATE_LIMIT_BURST" IsU32 100 config.limit.burst
  period : ∃ seconds, GivenOr env "RATE_LIMIT_PERIOD_SECONDS" IsU64 60 seconds ∧
    config.limit.period = .ofSeconds seconds

theorem givenOr_getD (env : Environment) (key default : String) :
    GivenOr env key Eq default ((env.get? key).getD default) := by
  cases hText : env.get? key with
  | none => exact .default hText
  | some text => exact .given hText rfl

theorem IsU32.unique {text : String} {value other : Nat} (h : IsU32 text value)
    (hOther : IsU32 text other) : value = other :=
  Text.SpellsNat.unique h hOther

theorem IsU64.unique {text : String} {value other : Nat} (h : IsU64 text value)
    (hOther : IsU64 text other) : value = other :=
  Text.SpellsNat.unique h hOther

/-- The limit meets what is asked of its variables, in the order in which they are looked at. -/
theorem meets_rateLimitOf (env : Environment) :
    Meets env rateLimitFaults (RateLimitReflects env) (rateLimitOf env) := by
  unfold rateLimitOf
  refine (meets_u32 env _ _).bind fun rate hRate => ?_
  refine (meets_u32 env _ _).bind fun burst hBurst => ?_
  refine (meets_u64 env _ _).bind fun period hPeriod => ?_
  have hRateZero := hRate.zero_occurs_iff IsU32.unique (by decide)
  have hPeriodZero := hPeriod.zero_occurs_iff IsU64.unique (by decide)
  exact .unless hRateZero fun _ => .unless hPeriodZero fun _ =>
    meets_ok ⟨givenOr_getD env _ _, hRate, hBurst, period, hPeriod, rfl⟩

/-- No environment asks for two limits. -/
theorem RateLimitReflects.unique {config other : RateLimit.Config}
    (h : RateLimitReflects env config) (hOther : RateLimitReflects env other) : config = other := by
  obtain ⟨name, rate, burst, period⟩ := config
  obtain ⟨otherName, otherRate, otherBurst, otherPeriod⟩ := other
  obtain ⟨seconds, hSeconds, hPeriod⟩ := h.period
  obtain ⟨otherSeconds, hOtherSeconds, hOtherPeriod⟩ := hOther.period
  have hName := h.name.unique hOther.name fun h h' => h.symm.trans h'
  have hRate := h.rate.unique hOther.rate IsU32.unique
  have hBurst := h.burst.unique hOther.burst IsU32.unique
  have hSame := hSeconds.unique hOtherSeconds IsU64.unique
  simp_all

/-! ## The whole configuration -/

/-- Everything that keeps the service from starting, in the order in which it is looked for. -/
def faults : List Fault :=
  [.unset "DATABASE_URL", .unusable "DATABASE_MAX_CONNECTIONS" IsU32, .unset "REDIS_URL",
    .unset "TOKEN_SECRET_HEX", .unusable "TOKEN_SECRET_HEX" IsSecret,
    .unusable "ENABLE_COOKIE_TOKEN" (Trimmed SpellsSwitch)] ++ rateLimitFaults ++
  [.unusable "RATE_LIMIT_FAIL_MODE" RateLimit.FailMode.Spells,
    .unusable "RLS_TENANT_SETTING" IsSettingName, .unusable "TENANT_CACHE_TTL_SECONDS" IsU64,
    .unusable "REQUEST_TIMEOUT_SECONDS" IsU64]

/-- A port is a number of 16 bits, without blanks. -/
def IsPort (text : String) (port : Nat) : Prop :=
  Text.SpellsNat Text.maxU16 text.toList port

def badPort : Fault :=
  .unusable "PORT" IsPort

/-- Two words choose production, in any case of their letters, and every other text is for
development. -/
def IsMode (text : String) (mode : Mode) : Prop :=
  mode = .production ↔ String.ofList (Text.lower text.toList) ∈ ["production", "prod"]

/-- What an environment says about the configuration, with the defaults of what it leaves out. -/
structure Reflects (env : Environment) (config : Config) : Prop where
  port : GivenOr env "PORT" IsPort 3000 config.port
  mode : GivenOr env "APP_ENV" IsMode .development config.mode
  databaseUrl : env.get? "DATABASE_URL" = some config.databaseUrl
  databaseMaxConnections :
    GivenOr env "DATABASE_MAX_CONNECTIONS" IsU32 10 config.databaseMaxConnections
  storeUrl : env.get? "REDIS_URL" = some config.storeUrl
  tokenSecret : ∃ text, env.get? "TOKEN_SECRET_HEX" = some text ∧ IsSecret text config.tokenSecret
  cookieToken : GivenOr env "ENABLE_COOKIE_TOKEN" (Trimmed SpellsSwitch) false config.cookieToken
  rateLimit : RateLimitReflects env config.rateLimit
  failMode :
    GivenOr env "RATE_LIMIT_FAIL_MODE" RateLimit.FailMode.Spells .lenient config.failMode
  tenantSetting :
    GivenOr env "RLS_TENANT_SETTING" IsSettingName "app.current_tenant_id" config.tenantSetting
  tenantCacheSeconds :
    GivenOr env "TENANT_CACHE_TTL_SECONDS" IsU64 300 config.tenantCacheSeconds
  requestTimeout : ∃ seconds, GivenOr env "REQUEST_TIMEOUT_SECONDS" IsU64 30 seconds ∧
    config.requestTimeout = .ofSeconds seconds

/-- What starting in an environment is documented to come to: the first fault is told, a port that
cannot be used before all others, and without a fault the configuration is what the environment
says. -/
def Documented (env : Environment) : Except ConfigError Config → Prop :=
  Meets env (badPort :: faults) (Reflects env)

theorem givenOr_modeOf (env : Environment) :
    GivenOr env "APP_ENV" IsMode .development (modeOf env) := by
  unfold modeOf
  cases hText : env.get? "APP_ENV" with
  | none => exact .default hText
  | some text =>
      refine .given hText ?_
      dsimp only
      split
      · next hWord => simpa [IsMode] using hWord
      · next hWord => simpa [IsMode] using hWord

/-- Every fault but that of the port is told, whatever takes the place of the port. -/
theorem meets_ofEnvironment (env : Environment)
    (hPort : GivenOr env "PORT" IsPort 3000 ((port? env).getD 3000)) :
    Meets env faults (Reflects env) (ofEnvironment env) := by
  unfold ofEnvironment
  refine (meets_required env _).bind fun databaseUrl hDatabaseUrl => ?_
  refine (meets_u32 env _ _).bind fun maxConnections hMaxConnections => ?_
  refine (meets_required env _).bind fun storeUrl hStoreUrl => ?_
  refine (meets_secret env).bind fun tokenSecret hTokenSecret => ?_
  refine (meets_readOr readBool?_eq_some_iff env _ _).bind fun cookieToken hCookieToken => ?_
  refine (meets_rateLimitOf env).bind fun rateLimit hRateLimit => ?_
  refine (meets_failModeOf env).bind fun failMode hFailMode => ?_
  refine (meets_tenantSettingOf env).bind fun tenantSetting hTenantSetting => ?_
  refine (meets_u64 env _ _).bind fun tenantCacheSeconds hTenantCache => ?_
  refine (meets_u64 env _ _).bind fun timeout hTimeout => ?_
  exact meets_ok ⟨hPort, givenOr_modeOf env, hDatabaseUrl, hMaxConnections, hStoreUrl,
    hTokenSecret, hCookieToken, hRateLimit, hFailMode, hTenantSetting, hTenantCache,
    timeout, hTimeout, rfl⟩

theorem IsMode.unique {text : String} {mode other : Mode} (h : IsMode text mode)
    (hOther : IsMode text other) : mode = other := by
  have hSame : mode = .production ↔ other = .production := h.trans hOther.symm
  cases mode <;> cases other <;> simp_all

/-- An environment says one thing at most. -/
theorem Reflects.unique {config other : Config} (h : Reflects env config)
    (hOther : Reflects env other) : config = other := by
  obtain ⟨secretText, hSecretText, hSecret⟩ := h.tokenSecret
  obtain ⟨otherText, hOtherText, hOtherSecret⟩ := hOther.tokenSecret
  obtain ⟨seconds, hSeconds, hTimeout⟩ := h.requestTimeout
  obtain ⟨otherSeconds, hOtherSeconds, hOtherTimeout⟩ := hOther.requestTimeout
  cases hSecretText.symm.trans hOtherText
  cases hSeconds.unique hOtherSeconds IsU64.unique
  have hPort := h.port.unique hOther.port Text.SpellsNat.unique
  have hMode := h.mode.unique hOther.mode IsMode.unique
  have hDatabaseUrl := Option.some_inj.mp (h.databaseUrl.symm.trans hOther.databaseUrl)
  have hMaxConnections := h.databaseMaxConnections.unique hOther.databaseMaxConnections IsU32.unique
  have hStoreUrl := Option.some_inj.mp (h.storeUrl.symm.trans hOther.storeUrl)
  have hTokenSecret := hSecret.1.trans hOtherSecret.1.symm
  have hCookieToken := h.cookieToken.unique hOther.cookieToken SpellsSwitch.unique
  have hRateLimit := h.rateLimit.unique hOther.rateLimit
  have hFailMode := h.failMode.unique hOther.failMode RateLimit.FailMode.Spells.unique
  have hTenantSetting := h.tenantSetting.unique hOther.tenantSetting
    fun hName hOtherName => hName.1.trans hOtherName.1.symm
  have hTenantCache := h.tenantCacheSeconds.unique hOther.tenantCacheSeconds IsU64.unique
  have hRequestTimeout := hTimeout.trans hOtherTimeout.symm
  cases config
  cases other
  simp only [Config.mk.injEq]
  exact ⟨hPort, hMode, hDatabaseUrl, hMaxConnections, hStoreUrl, hTokenSecret, hCookieToken,
    hRateLimit, hFailMode, hTenantSetting, hTenantCache, hRequestTimeout⟩

/-- The documents leave open nothing: two outcomes that they allow are one. -/
theorem Documented.unique {outcome other : Except ConfigError Config}
    (h : Documented env outcome) (hOther : Documented env other) : outcome = other :=
  Meets.unique Reflects.unique h hOther

/-! ## Ports -/

/-- The port is what the variable spells. -/
theorem port?_eq_some_iff {port : Nat} :
    port? env = some port ↔ ∃ text, env.get? "PORT" = some text ∧ IsPort text port := by
  unfold port? IsPort
  simp only [Option.bind_eq_some_iff, Text.readNat?_eq_some_iff]

/-- One that cannot be used is as good as none. -/
theorem port?_eq_none (h : badPort.Occurs env) : port? env = none := by
  obtain ⟨text, hText, hNone⟩ := h
  refine Option.eq_none_iff_forall_ne_some.mpr fun port hPort => ?_
  obtain ⟨same, hSame, hSpelt⟩ := port?_eq_some_iff.mp hPort
  cases hText.symm.trans hSame
  exact hNone port hSpelt

/-- Where it can be used, or is not set, the documented port is taken. -/
theorem givenOr_port (h : ¬ badPort.Occurs env) :
    GivenOr env "PORT" IsPort 3000 ((port? env).getD 3000) := by
  cases hPort : port? env with
  | some port =>
      obtain ⟨text, hText, hSpelt⟩ := port?_eq_some_iff.mp hPort
      exact .given hText hSpelt
  | none =>
      refine .default (Option.eq_none_iff_forall_ne_some.mpr fun text hText => h ⟨text, hText, ?_⟩)
      intro port hSpelt
      cases (port?_eq_some_iff.mpr ⟨text, hText, hSpelt⟩).symm.trans hPort

/-- Only the port of a configuration is made of the variable `PORT`. -/
theorem ofEnvironment_congr {other : Environment} (hPort : port? env = port? other)
    (hSame : ∀ key, key ≠ "PORT" → env.get? key = other.get? key) :
    ofEnvironment env = ofEnvironment other := by
  simp (disch := decide) only [ofEnvironment, required, readOr, secret, rateLimitOf, failModeOf,
    tenantSettingOf, modeOf, hPort, hSame]

theorem not_occurs_unset (env : Environment) : ¬ badPort.Occurs (env.unset "PORT") := by
  rintro ⟨text, hText, -⟩
  cases (env.get?_unset_self "PORT").symm.trans hText

/-- A port that cannot be used is passed over as if there were none. -/
theorem ofEnvironment_unset (h : badPort.Occurs env) :
    ofEnvironment env = ofEnvironment (env.unset "PORT") := by
  refine ofEnvironment_congr ?_ fun key hKey => (Environment.get?_unset_of_ne env hKey).symm
  rw [port?_eq_none h]
  unfold port?
  rw [Environment.get?_unset_self]
  rfl

theorem First.mem {faults : List Fault} {error : ConfigError} (h : First env faults error) :
    error ∈ faults.map Fault.error := by
  obtain ⟨fault, hFault, rfl, -⟩ := h.exists_occurs
  exact List.mem_map_of_mem hFault

/-- But for the port, the configuration is what the documents say. -/
theorem eq_iff_documented (h : ¬ badPort.Occurs env) (outcome : Except ConfigError Config) :
    ofEnvironment env = outcome ↔ Documented env outcome := by
  have hDocumented : Documented env (ofEnvironment env) :=
    (meets_ofEnvironment env (givenOr_port h)).cons h
  constructor
  · rintro rfl
    exact hDocumented
  · exact hDocumented.unique

/-- No error is about the port. -/
theorem ofEnvironment_ne_invalid_port (env : Environment) :
    ofEnvironment env ≠ .error (.invalid "PORT") := by
  -- A port that cannot be used may be left out first.
  have hUsable {env : Environment} (h : ¬ badPort.Occurs env) :
      ofEnvironment env ≠ .error (.invalid "PORT") := by
    intro hOutcome
    generalize hError : ConfigError.invalid "PORT" = error at hOutcome
    cases (eq_iff_documented h _).mp hOutcome with
    | here hOccurs => exact h hOccurs
    | later _ hRest =>
        have hMem := hRest.mem
        rw [← hError] at hMem
        exact absurd hMem (by decide)
  by_cases h : badPort.Occurs env
  · rw [ofEnvironment_unset h]
    exact hUsable (not_occurs_unset env)
  · exact hUsable h

/-- The service starts as documented, with just the configuration or just the error that the
documents ask for, unless the port cannot be used. Then it starts as if no port were given. -/
theorem documented_iff_usable_port (env : Environment) :
    ((∀ outcome, ofEnvironment env = outcome ↔ Documented env outcome) ↔ ¬ badPort.Occurs env) ∧
      (badPort.Occurs env →
        ∀ outcome, ofEnvironment env = outcome ↔ Documented (env.unset "PORT") outcome) := by
  refine ⟨⟨fun hAll hPort => ?_, eq_iff_documented⟩, fun hPort outcome => ?_⟩
  · exact ofEnvironment_ne_invalid_port env ((hAll _).mpr (.here hPort))
  · rw [ofEnvironment_unset hPort]
    exact eq_iff_documented (not_occurs_unset env) outcome

/-- The variables that are required, and a port that is none. -/
def mistyped : Environment :=
  ⟨[("DATABASE_URL", "postgres://localhost/app"), ("REDIS_URL", "redis://localhost"),
    ("TOKEN_SECRET_HEX", "0707070707070707070707070707070707070707070707070707070707070707"),
    ("PORT", "99999")]⟩

/-- The mistyped port should keep the service from starting; it listens on the default one. -/
theorem mistyped_port_replaced :
    Documented mistyped (.error (.invalid "PORT")) ∧
      (ofEnvironment mistyped).map Config.port = .ok 3000 ∧
      ¬ Documented mistyped (ofEnvironment mistyped) := by
  have hPort : badPort.Occurs mistyped := by
    refine ⟨"99999", by decide, fun port hSpelt => ?_⟩
    have hRead := Text.readNat?_eq_some_iff.mpr hSpelt
    have hNone : Text.readNat? Text.maxU16 "99999".toList = none := by decide
    cases hNone.symm.trans hRead
  have hDocumented : Documented mistyped (.error (.invalid "PORT")) := .here hPort
  refine ⟨hDocumented, by decide, fun h => ?_⟩
  exact ofEnvironment_ne_invalid_port mistyped (h.unique hDocumented)

end Config

end Gatehouse
