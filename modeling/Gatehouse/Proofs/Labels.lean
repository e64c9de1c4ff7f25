import Gatehouse.Proofs.FirstValues
import Gatehouse.Proofs.LetterCase
import Gatehouse.Proofs.StageOrder

/-! Which tenant a request is for. One text alone decides: the first entry of the forwarded host, or
the host header if there is no such entry, or the target if neither header is of use. The label is how
this text begins, up to the first dot or colon and in lower case, so neither the case of its letters
nor a port nor another domain makes a difference. -/
namespace Gatehouse

namespace Tenant

variable {host other label : List Char} {request changed : Http.Request}

/-! ## One source -/

/-- The text that decides where the host of a request is looked for. -/
inductive Decides (request : Http.Request) (host : List Char) : Prop
  | forwarded (h : request.headers.Lists "x-forwarded-host" host) : Decides request host
  | header (hForwarded : ∀ entry, ¬ request.headers.Lists "x-forwarded-host" entry)
      (h : request.headers.Holds "host" host) : Decides request host
  | target (hForwarded : ∀ entry, ¬ request.headers.Lists "x-forwarded-host" entry)
      (hHeader : ∀ text, ¬ request.headers.Holds "host" text)
      (h : request.target.host? = some host) : Decides request host

theorem forwardedHost?_eq (headers : Http.Headers) :
    forwardedHost? headers = headers.foremost? "x-forwarded-host" :=
  rfl

/-- The host that decides is taken from the first source there is. -/
theorem namedHost?_eq_some_iff :
    namedHost? request.headers request.target = some host ↔ Decides request host := by
  constructor
  · intro h
    unfold namedHost? at h
    rw [forwardedHost?_eq, Option.or_eq_some_iff, Option.or_eq_some_iff] at h
    rcases h with h | ⟨hForwarded, h | ⟨hHeader, h⟩⟩
    · exact .forwarded (Http.Headers.foremost?_eq_some_iff.mp h)
    · exact .header (Http.Headers.foremost?_eq_none_iff.mp hForwarded)
        (Http.Headers.trimmed?_eq_some_iff.mp h)
    · exact .target (Http.Headers.foremost?_eq_none_iff.mp hForwarded)
        (Http.Headers.trimmed?_eq_none_iff.mp hHeader) h
  · intro h
    rw [namedHost?, forwardedHost?_eq]
    cases h with
    | forwarded h => rw [Http.Headers.foremost?_eq_some_iff.mpr h, Option.some_or]
    | header hForwarded h =>
        rw [Http.Headers.foremost?_eq_none_iff.mpr hForwarded,
          Http.Headers.trimmed?_eq_some_iff.mpr h, Option.none_or, Option.some_or]
    | target hForwarded hHeader h =>
        rw [Http.Headers.foremost?_eq_none_iff.mpr hForwarded,
          Http.Headers.trimmed?_eq_none_iff.mpr hHeader, Option.none_or, Option.none_or, h]

/-! ## Labels -/

/-- The host begins with the label, in any case of its letters, up to the first dot or colon. -/
def IsLabel (label host : List Char) : Prop :=
  ∃ start rest, host = start ++ rest ∧ start ≠ [] ∧ '.' ∉ start ∧ ':' ∉ start ∧
    (∀ c ∈ rest.head?, c = '.' ∨ c = ':') ∧ label = Text.lower start

/-- A host begins with its label, and a dot or a colon ends that. -/
theorem before_dot_colon (host : List Char) :
    ∃ rest, host = Text.before '.' (Text.before ':' host) ++ rest ∧
      '.' ∉ Text.before '.' (Text.before ':' host) ∧ ':' ∉ Text.before '.' (Text.before ':' host) ∧
      ∀ c ∈ rest.head?, c = '.' ∨ c = ':' := by
  have hHost : Text.before ':' host ++ host.dropWhile (· != ':') = host :=
    List.takeWhile_append_dropWhile
  have hColon : ':' ∉ Text.before ':' host := fun hMem => by
    simpa using List.mem_takeWhile_imp hMem
  have hTail := List.head?_dropWhile_not (· != ':') host
  generalize Text.before ':' host = front at hHost hColon
  generalize host.dropWhile (· != ':') = tail at hHost hTail
  have hFront : Text.before '.' front ++ front.dropWhile (· != '.') = front :=
    List.takeWhile_append_dropWhile
  have hMiddle := List.head?_dropWhile_not (· != '.') front
  refine ⟨front.dropWhile (· != '.') ++ tail, by rw [← List.append_assoc, hFront, hHost],
    fun hMem => by simpa using List.mem_takeWhile_imp hMem,
    fun hMem => hColon ((List.takeWhile_sublist _).mem hMem), fun c hc => ?_⟩
  cases hRest : front.dropWhile (· != '.') with
  | nil =>
      rw [hRest, List.nil_append] at hc
      rw [Option.mem_def.mp hc] at hTail
      exact .inr (by simpa using hTail)
  | cons d rest =>
      rw [hRest] at hc hMiddle
      cases hc
      exact .inl (by simpa using hMiddle)

/-- Whatever follows the first dot or colon does not belong to the label. -/
theorem before_dot_colon_append {start rest : List Char} (hDot : '.' ∉ start) (hColon : ':' ∉ start)
    (hRest : ∀ c ∈ rest.head?, c = '.' ∨ c = ':') :
    Text.before '.' (Text.before ':' (start ++ rest)) = start := by
  rw [Text.before_append_of_not_mem hColon]
  refine Text.before_append hDot fun c hc => ?_
  cases rest with
  | nil => cases hc
  | cons d rest =>
      rcases hRest d rfl with rfl | rfl
      · simpa [Text.before] using hc.symm
      · simp [Text.before] at hc

/-- The label is the first part of the host, in small letters. -/
theorem label?_before_eq_some_iff :
    label? (Text.before ':' host) = some label ↔ IsLabel label host := by
  unfold label? IsLabel
  dsimp only
  constructor
  · intro h
    split at h
    · cases h
    · next hSome =>
      cases h
      obtain ⟨rest, hHost, hDot, hColon, hRest⟩ := before_dot_colon host
      exact ⟨_, rest, hHost, by simpa using hSome, hDot, hColon, hRest, rfl⟩
  · rintro ⟨start, rest, rfl, hSome, hDot, hColon, hRest, rfl⟩
    rw [before_dot_colon_append hDot hColon hRest]
    exact if_neg (by simpa using hSome)

/-- A label is cut at dots and colons and has no capitals. -/
theorem IsLabel.traits (h : IsLabel label host) :
    label ≠ [] ∧ ∀ c ∈ label, c ≠ '.' ∧ c ≠ ':' ∧ ¬ ('A' ≤ c ∧ c ≤ 'Z') := by
  obtain ⟨start, rest, -, hSome, hDot, hColon, -, rfl⟩ := h
  refine ⟨by simpa [Text.lower] using hSome, fun c hc => ?_⟩
  obtain ⟨d, hd, rfl⟩ := List.mem_map.mp hc
  have hKept {separator : Char} (hMem : separator ∈ ['.', ':', ',']) (hNot : separator ∉ start) :
      Text.lowerChar d ≠ separator := by
    rw [← beq_eq_false_iff_ne, Text.lowerChar_beq hMem, beq_eq_false_iff_ne]
    exact fun hSame => hNot (hSame ▸ hd)
  exact ⟨hKept (by simp) hDot, hKept (by simp) hColon, Text.not_upper_lowerChar d⟩

/-- The case of letters makes no difference. -/
theorem label?_before_congr (h : Text.lower other = Text.lower host) :
    label? (Text.before ':' other) = label? (Text.before ':' host) := by
  have hStem (host : List Char) : label? (Text.before ':' host) =
      let stem := Text.before '.' (Text.before ':' (Text.lower host))
      if stem.isEmpty then none else some stem := by
    rw [← Text.lower_before (by simp), ← Text.lower_before (by simp), label?]
    simp [Text.lower]
  rw [hStem, hStem, h]

theorem requestLabel?_eq (headers : Http.Headers) (target : Http.Target) :
    requestLabel? headers target =
      (namedHost? headers target).bind fun host => label? (Text.before ':' host) := by
  unfold requestLabel? effectiveHost?
  cases namedHost? headers target with
  | none => rfl
  | some host =>
      dsimp only [Option.bind_eq_bind, Option.bind_some]
      split
      · next hEmpty =>
        rw [List.isEmpty_iff.mp hEmpty]
        rfl
      · rfl

/-- A request has the label of the host that decides. -/
theorem requestLabel?_eq_some_iff :
    requestLabel? request.headers request.target = some label ↔
      ∃ host, Decides request host ∧ IsLabel label host := by
  simp only [requestLabel?_eq, Option.bind_eq_some_iff, namedHost?_eq_some_iff,
    label?_before_eq_some_iff]

/-! ## What does not decide -/

/-- The requests differ in what is not looked at: in other headers and in all values but the first, in
what stands behind a comma of the forwarded host, or, where one source decides, in those that come
after it. -/
inductive Overlooks (request changed : Http.Request) : Prop
  | repeated
      (hForwarded : changed.headers.first? "x-forwarded-host" =
        request.headers.first? "x-forwarded-host")
      (hHeader : changed.headers.first? "host" = request.headers.first? "host")
      (hTarget : changed.target = request.target) : Overlooks request changed
  | entries {value other : Bytes}
      (hValue : request.headers.first? "x-forwarded-host" = some value)
      (hOther : changed.headers.first? "x-forwarded-host" = some other)
      (hComma : Http.Headers.DifferBehindComma value other)
      (hHeader : changed.headers.first? "host" = request.headers.first? "host")
      (hTarget : changed.target = request.target) : Overlooks request changed
  | belowForwarded {host : List Char} (hSource : request.headers.Lists "x-forwarded-host" host)
      (hForwarded : changed.headers.first? "x-forwarded-host" =
        request.headers.first? "x-forwarded-host") : Overlooks request changed
  | belowHeader {host : List Char} (hSource : request.headers.Holds "host" host)
      (hForwarded : changed.headers.first? "x-forwarded-host" =
        request.headers.first? "x-forwarded-host")
      (hHeader : changed.headers.first? "host" = request.headers.first? "host") :
      Overlooks request changed

theorem Overlooks.namedHost?_eq (h : Overlooks request changed) :
    namedHost? changed.headers changed.target = namedHost? request.headers request.target := by
  simp only [namedHost?, forwardedHost?_eq]
  cases h with
  | repeated hForwarded hHeader hTarget =>
      rw [Http.Headers.foremost?_congr hForwarded, Http.Headers.trimmed?_congr hHeader, hTarget]
  | entries hValue hOther hComma hHeader hTarget =>
      rw [Http.Headers.foremost?_of_differBehindComma hValue hOther hComma,
        Http.Headers.trimmed?_congr hHeader, hTarget]
  | belowForwarded hSource hForwarded =>
      rw [Http.Headers.foremost?_congr hForwarded, Http.Headers.foremost?_eq_some_iff.mpr hSource,
        Option.some_or, Option.some_or]
  | belowHeader hSource hForwarded hHeader =>
      rw [Http.Headers.foremost?_congr hForwarded, Http.Headers.trimmed?_congr hHeader,
        Http.Headers.trimmed?_eq_some_iff.mpr hSource, Option.some_or, Option.some_or]

/-- What is overlooked does not change the label. -/
theorem Overlooks.requestLabel?_eq (h : Overlooks request changed) :
    requestLabel? changed.headers changed.target =
      requestLabel? request.headers request.target := by
  rw [Tenant.requestLabel?_eq, Tenant.requestLabel?_eq, h.namedHost?_eq]

/-! ## Spellings of a host -/

/-- A text that may name a host: it is not empty, and has neither commas nor blanks around it. -/
structure IsHostText (host : List Char) : Prop where
  ne_nil : host ≠ []
  plain : ∀ c ∈ host, Text.IsPlain c ∧ c ≠ ','
  trimmed : Text.trim host = host

/-- The same host: with letters in another case, with a port, or in a domain. -/
inductive Variant (host : List Char) : List Char → Prop
  | letters {other : List Char} (h : Text.lower other = Text.lower host) : Variant host other
  | port {text : List Char} (hText : ∀ c ∈ text, Text.IsPlain c ∧ c ≠ ',') :
      Variant host (host ++ ':' :: text)
  | domain {text : List Char} (hHost : ':' ∉ host) (hText : ∀ c ∈ text, Text.IsPlain c ∧ c ≠ ',') :
      Variant host (host ++ '.' :: text)

/-- The requests give these hosts in the same place: as the first entry of the forwarded host, or in
the host header behind the same forwarded host. -/
inductive Restates (request changed : Http.Request) (host other : List Char) : Prop
  | forwarded {more : List Char} (hMore : ∀ c ∈ more.head?, c = ',')
      (hPlain : ∀ c ∈ more, Text.IsPlain c)
      (h : request.headers.first? "x-forwarded-host" =
        some (Bytes.ofText (String.ofList (host ++ more))))
      (hChanged : changed.headers.first? "x-forwarded-host" =
        some (Bytes.ofText (String.ofList (other ++ more)))) : Restates request changed host other
  | header
      (hForwarded : changed.headers.first? "x-forwarded-host" =
        request.headers.first? "x-forwarded-host")
      (h : request.headers.first? "host" = some (Bytes.ofText (String.ofList host)))
      (hChanged : changed.headers.first? "host" = some (Bytes.ofText (String.ofList other))) :
      Restates request changed host other

/-- A variant can stand in a header wherever its host can. -/
theorem Variant.plain (hHost : IsHostText host) (h : Variant host other) :
    ∀ c ∈ other, Text.IsPlain c ∧ c ≠ ',' := by
  have hBehind {separator : Char} (hSeparator : Text.IsPlain separator ∧ separator ≠ ',')
      {text : List Char} (hText : ∀ c ∈ text, Text.IsPlain c ∧ c ≠ ',') :
      ∀ c ∈ host ++ separator :: text, Text.IsPlain c ∧ c ≠ ',' :=
    List.forall_mem_append.mpr ⟨hHost.plain, List.forall_mem_cons.mpr ⟨hSeparator, hText⟩⟩
  cases h with
  | port hText => exact hBehind (by decide) hText
  | domain _ hText => exact hBehind (by decide) hText
  | letters hLower =>
      intro c hc
      have hMem : Text.lowerChar c ∈ Text.lower host := hLower ▸ List.mem_map_of_mem hc
      obtain ⟨d, hd, hSame⟩ := List.mem_map.mp hMem
      obtain ⟨hPlain, hComma⟩ := hHost.plain d hd
      refine ⟨?_, fun hEq => hComma ?_⟩
      · rwa [← Text.isPlain_lowerChar, ← hSame, Text.isPlain_lowerChar]
      · have hBeq (c : Char) : (Text.lowerChar c == ',') = (c == ',') := Text.lowerChar_beq (by simp) c
        rw [← beq_iff_eq, ← hBeq, hSame, hBeq, beq_iff_eq]
        exact hEq

/-- Trimming takes nothing off a variant but what follows the host. -/
theorem Variant.label?_eq (hHost : IsHostText host) (h : Variant host other) :
    Text.trim other ≠ [] ∧
      label? (Text.before ':' (Text.trim other)) = label? (Text.before ':' host) := by
  have hHead : ∀ c ∈ host.head?, Text.isBlank c = false := by
    rw [← hHost.trimmed]
    exact (Text.ends_of_trim host).1
  cases h with
  | letters hLower =>
      have hTrimmed : Text.lower (Text.trim other) = Text.lower host := by
        rw [Text.lower_trim, hLower, ← Text.lower_trim, hHost.trimmed]
      refine ⟨fun hNone => hHost.ne_nil ?_, label?_before_congr hTrimmed⟩
      rw [hNone] at hTrimmed
      exact List.map_eq_nil_iff.mp hTrimmed.symm
  | @port text _ =>
      obtain ⟨rest, hTrim⟩ := Text.exists_trim_append hHost.ne_nil hHead (c := ':') rfl text
      rw [hTrim, Text.before_append_separator]
      exact ⟨by simp, rfl⟩
  | @domain text hColon _ =>
      obtain ⟨rest, hTrim⟩ := Text.exists_trim_append hHost.ne_nil hHead (c := '.') rfl text
      have hBefore : Text.before ':' (host ++ '.' :: rest) = host ++ '.' :: Text.before ':' rest :=
        Text.before_append_of_not_mem hColon ('.' :: rest)
      rw [hTrim, hBefore, Text.before_eq_self hColon, label?, label?, Text.before_append_separator]
      exact ⟨by simp, rfl⟩

/-- Variants of a host in the same place have the same label. -/
theorem Restates.requestLabel?_eq (hHost : IsHostText host) (hVariant : Variant host other)
    (h : Restates request changed host other) :
    requestLabel? changed.headers changed.target =
      requestLabel? request.headers request.target := by
  have hPlain := hVariant.plain hHost
  obtain ⟨hSome, hLabel⟩ := hVariant.label?_eq hHost
  have hHostSome : Text.trim host ≠ [] := by
    rw [hHost.trimmed]
    exact hHost.ne_nil
  simp only [Tenant.requestLabel?_eq]
  cases h with
  | forwarded hMore hMorePlain hValue hChanged =>
      have hEntry := Http.Headers.lists_trim hValue hHost.plain hMorePlain hMore hHostSome
      have hOther := Http.Headers.lists_trim hChanged hPlain hMorePlain hMore hSome
      rw [hHost.trimmed] at hEntry
      rw [namedHost?_eq_some_iff.mpr (.forwarded hEntry),
        namedHost?_eq_some_iff.mpr (.forwarded hOther)]
      exact hLabel
  | header hForwarded hValue hChanged =>
      have hHolds := Http.Headers.holds_trim hValue (fun c hc => (hHost.plain c hc).1) hHostSome
      have hOther := Http.Headers.holds_trim hChanged (fun c hc => (hPlain c hc).1) hSome
      rw [hHost.trimmed] at hHolds
      by_cases hUsed : ∃ entry, request.headers.Lists "x-forwarded-host" entry
      · obtain ⟨entry, hEntry⟩ := hUsed
        have hSame := (Overlooks.belowForwarded hEntry hForwarded).requestLabel?_eq
        rwa [Tenant.requestLabel?_eq, Tenant.requestLabel?_eq] at hSame
      · have hNone : ∀ entry, ¬ request.headers.Lists "x-forwarded-host" entry := not_exists.mp hUsed
        have hChangedNone : ∀ entry, ¬ changed.headers.Lists "x-forwarded-host" entry := by
          rwa [← Http.Headers.foremost?_eq_none_iff, Http.Headers.foremost?_congr hForwarded,
            Http.Headers.foremost?_eq_none_iff]
        rw [namedHost?_eq_some_iff.mpr (.header hNone hHolds),
          namedHost?_eq_some_iff.mpr (.header hChangedNone hOther)]
        exact hLabel

/-! ## Lookups -/

/-- The tenant stage answers by itself and asks for nothing, whatever stands behind it. -/
def TurnedAway (gate : Gate) (request : Http.Request) : Prop :=
  ∀ (σ : Type) (world : World σ) (deadline : Option Duration) (context : Context)
    (next : Context → Program Answer) (scene : Scene σ),
    let outcome :=
      (Pipeline.resolveTenant gate request context next).run world deadline scene
    callsOf outcome.trace = [] ∧
      ∃ response, outcome.ending = .finished (.ok response) ∧ response.status = 400

/-- The tenant stage looks up this label and nothing else. What stands behind it goes on with the
tenant, if there is one. -/
def LooksUp (gate : Gate) (request : Http.Request) (label : List Char) : Prop :=
  let domain := String.ofList label
  ∀ (context : Context) (next : Context → Program Answer),
    Pipeline.resolveTenant gate request context next =
      (gate.tenants.find domain).bind fun
        | .error error =>
          .log (Pipeline.lookupEvent domain error) (Program.refuse .tenantUnresolved)
        | .ok id => next { context with tenant := some ⟨id, domain⟩ }

/-- A request without a label is turned away before anybody is asked. -/
theorem turnedAway_of_none (gate : Gate)
    (h : requestLabel? request.headers request.target = none) : TurnedAway gate request := by
  intro σ world deadline context next scene
  have hNone : (effectiveHost? request.headers request.target).bind label? = none := h
  unfold Pipeline.resolveTenant
  dsimp only
  rw [hNone]
  exact ⟨rfl, _, rfl, rfl⟩

/-- A label is what the directory is asked for first. -/
theorem looksUp_of_some (gate : Gate)
    (h : requestLabel? request.headers request.target = some label) :
    LooksUp gate request label := by
  intro context next
  have hSome : (effectiveHost? request.headers request.target).bind label? = some label := h
  unfold Pipeline.resolveTenant
  dsimp only
  rw [hSome]
  rfl

/-- The label of a request is how the text of one source begins, and nothing else that the request
holds is looked at. Variants of a host have the same label, which has no capitals, dots and colons and
is not empty. This label is looked up, and without one nothing is. -/
theorem label_canonical (request : Http.Request) :
    (∀ label, requestLabel? request.headers request.target = some label ↔
      ∃ host, Decides request host ∧ IsLabel label host) ∧
    (∀ changed, Overlooks request changed →
      requestLabel? changed.headers changed.target =
        requestLabel? request.headers request.target) ∧
    (∀ host other changed, IsHostText host → Variant host other →
      Restates request changed host other →
      requestLabel? changed.headers changed.target =
        requestLabel? request.headers request.target) ∧
    (∀ label, requestLabel? request.headers request.target = some label →
      label ≠ [] ∧ ∀ c ∈ label, c ≠ '.' ∧ c ≠ ':' ∧ ¬ ('A' ≤ c ∧ c ≤ 'Z')) ∧
    ∀ gate, (requestLabel? request.headers request.target = none → TurnedAway gate request) ∧
      ∀ label, requestLabel? request.headers request.target = some label →
        LooksUp gate request label := by
  refine ⟨fun label => requestLabel?_eq_some_iff, fun changed => Overlooks.requestLabel?_eq,
    fun host other changed hHost hVariant => Restates.requestLabel?_eq hHost hVariant,
    fun label hLabel => ?_, fun gate => ⟨turnedAway_of_none gate, fun label => looksUp_of_some gate⟩⟩
  obtain ⟨host, -, hIsLabel⟩ := requestLabel?_eq_some_iff.mp hLabel
  exact hIsLabel.traits

/-- A request for a path of the service with these headers. -/
def asking (fields : List (String × Bytes)) : Http.Request :=
  ⟨"GET", ⟨none, "/api/v1/tenant".toList⟩, ⟨fields⟩, none, 0⟩

/-- A forwarded host in a domain and with a port, before a proxy, is the same as without them, whatever
the host header is. -/
theorem forwarded_host_canonical :
    let request := asking [("host", Bytes.ofText "localhost"),
      ("x-forwarded-host", Bytes.ofText "Tenant-B, proxy.internal")]
    let changed := asking [("x-forwarded-host",
      Bytes.ofText "Tenant-B.Example.com:443 , proxy.internal"), ("host", [0xFF])]
    IsHostText "Tenant-B".toList ∧
      Variant "Tenant-B".toList "Tenant-B.Example.com:443 ".toList ∧
      Restates request changed "Tenant-B".toList "Tenant-B.Example.com:443 ".toList ∧
      requestLabel? changed.headers changed.target = some "tenant-b".toList := by
  intro request changed
  have hHost : IsHostText "Tenant-B".toList :=
    ⟨by decide, Text.forall_of_all (by decide), by decide⟩
  have hDomain : ∀ c ∈ "Example.com:443 ".toList, Text.IsPlain c ∧ c ≠ ',' :=
    Text.forall_of_all (by decide)
  have hVariant : Variant "Tenant-B".toList "Tenant-B.Example.com:443 ".toList :=
    Variant.domain (by decide) hDomain
  have hMore : ∀ c ∈ ", proxy.internal".toList, Text.IsPlain c := Text.forall_of_all (by decide)
  have hRestates : Restates request changed "Tenant-B".toList "Tenant-B.Example.com:443 ".toList :=
    .forwarded (by simp) hMore rfl rfl
  obtain ⟨-, -, hSame, -⟩ := label_canonical request
  exact ⟨hHost, hVariant, hRestates, (hSame _ _ changed hHost hVariant hRestates).trans (by decide)⟩

end Tenant

end Gatehouse
