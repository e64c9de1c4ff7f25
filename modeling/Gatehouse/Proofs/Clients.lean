import Gatehouse.Proofs.Addresses
import Gatehouse.RateLimit.Client

/-! What a client can be called. Its name comes from a header or is the text of an address, so it is
plain and does not begin with a blank, and every such text can be had from a header. -/
namespace Gatehouse

/-! ## Texts of headers -/

namespace Text

/-- A text that may stand in a header, at the beginning of what is left there when it is trimmed. -/
structure Begins (text : List Char) : Prop where
  plain : ∀ c ∈ text, IsPlain c
  head : ∀ c ∈ text.head?, isBlank c = false

/-- Whatever a text that begins properly begins with begins properly. -/
theorem Begins.mono {text longer : List Char} (h : Begins longer) (hPrefix : text <+: longer) :
    Begins text := by
  obtain ⟨rest, rfl⟩ := hPrefix
  refine ⟨fun c hc => h.plain c (List.mem_append_left _ hc), fun c hc => h.head c ?_⟩
  cases text with
  | nil => cases hc
  | cons d tail => exact hc

/-- Trimming leaves a part of the text, with no blank before it. -/
theorem begins_trim {text : List Char} (h : ∀ c ∈ text, IsPlain c) : Begins (trim text) := by
  have hLeft : Begins (trimLeft text) := by
    refine ⟨fun c hc => h c ((List.dropWhile_sublist isBlank).mem hc), fun c hc => ?_⟩
    have hHead := List.head?_dropWhile_not isBlank text
    unfold trimLeft at hc
    rw [Option.mem_def.mp hc] at hHead
    exact hHead
  have hRight : trim text <+: trimLeft text := by
    rw [← List.reverse_suffix, trim, trimRight, List.reverse_reverse]
    exact List.dropWhile_suffix isBlank
  exact hLeft.mono hRight

/-- A plain character that is no blank. -/
def IsSolid (c : Char) : Prop :=
  IsPlain c ∧ isBlank c = false

instance (c : Char) : Decidable (IsSolid c) :=
  inferInstanceAs (Decidable (_ ∧ _))

/-- A text without blanks begins properly. -/
theorem begins_of_isSolid {text : List Char} (h : ∀ c ∈ text, IsSolid c) : Begins text :=
  ⟨fun c hc => (h c hc).1, fun c hc => (h c (List.mem_of_mem_head? hc)).2⟩

end Text

/-- A value has its blanks trimmed before it is used. -/
theorem Http.Headers.begins_of_trimmed? {headers : Http.Headers} {name : String} {text : List Char}
    (h : headers.trimmed? name = some text) : Text.Begins text := by
  unfold trimmed? at h
  split at h
  · cases h
  · next value hValue =>
    obtain ⟨bytes, -, hReadable⟩ := Option.bind_eq_some_iff.mp hValue
    dsimp only at h
    split at h
    · cases h
    · cases h
      exact Text.begins_trim (Text.isPlain_of_readable? hReadable)

theorem Address.isSolid_of_mem_toText (address : Address) :
    ∀ c ∈ address.toText, Text.IsSolid c :=
  address.forall_mem_toText (by decide) (by decide) (by decide)

/-! ## Clients -/

namespace RateLimit

theorem isSolid_of_mem_unknownClient : ∀ c ∈ unknownClient, Text.IsSolid c :=
  Text.forall_of_all (by decide)

/-- The first client that was forwarded is trimmed as well. -/
theorem begins_of_forwardedClient? {headers : Http.Headers} {text : List Char}
    (h : forwardedClient? headers = some text) : Text.Begins text := by
  unfold forwardedClient? at h
  obtain ⟨list, hList, h⟩ := Option.bind_eq_some_iff.mp h
  dsimp only at h
  split at h
  · cases h
  · cases h
    have hPlain := (Http.Headers.begins_of_trimmed? hList).plain
    exact Text.begins_trim fun c hc => hPlain c (List.takeWhile_subset _ hc)

/-- Every client has an identifier that begins properly, from wherever it is taken. -/
theorem begins_client (headers : Http.Headers) (peer : Option Address) :
    Text.Begins (client headers peer) := by
  unfold client
  cases hReal : headers.trimmed? "x-real-ip" with
  | some text => exact Http.Headers.begins_of_trimmed? hReal
  | none =>
      cases hForwarded : forwardedClient? headers with
      | some text => exact begins_of_forwardedClient? hForwarded
      | none =>
          cases peer with
          | some address => exact Text.begins_of_isSolid address.isSolid_of_mem_toText
          | none => exact Text.begins_of_isSolid isSolid_of_mem_unknownClient

/-- Every name that a proxy may report is had by a client. -/
theorem client_of_reported {text : List Char} (h : Text.Begins text) (hSome : text ≠ [])
    (hLast : ∀ c ∈ text.getLast?, Text.isBlank c = false) (peer : Option Address) :
    client ⟨[("x-real-ip", Bytes.ofText (String.ofList text))]⟩ peer = text := by
  have hTrimmed : Text.trim text = text := Text.trim_eq_self h.head hLast
  have hReported : Http.Headers.trimmed?
      ⟨[("x-real-ip", Bytes.ofText (String.ofList text))]⟩ "x-real-ip" = some text := by
    unfold Http.Headers.trimmed?
    simp [Http.Headers.first?, Http.Headers.values, Text.readable?_ofText h.plain, hTrimmed, hSome]
  rw [client, hReported]
  rfl

/-- A client may be called by anything that a client may begin with, a colon and another client. -/
theorem exists_client_append {rest : List Char} (h : Text.Begins rest) :
    ∃ headers, client headers none = rest ++ ':' :: unknownClient := by
  have hSolid : ∀ c ∈ ':' :: unknownClient, Text.IsSolid c := Text.forall_of_all (by decide)
  have hText : Text.Begins (rest ++ ':' :: unknownClient) := by
    refine ⟨fun c hc => (List.mem_append.mp hc).elim (h.plain c) fun hc => (hSolid c hc).1,
      fun c hc => ?_⟩
    cases rest with
    | nil => exact (hSolid c (List.mem_of_mem_head? hc)).2
    | cons first tail => exact h.head c hc
  have hLast : ∀ c ∈ (rest ++ ':' :: unknownClient).getLast?, Text.isBlank c = false := by
    have hEnd : (':' :: unknownClient).getLast? = some 'n' := rfl
    intro c hc
    rw [List.getLast?_append, hEnd] at hc
    cases hc
    decide
  exact ⟨_, client_of_reported hText (by simp) hLast none⟩

end RateLimit

end Gatehouse
