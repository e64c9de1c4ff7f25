import Gatehouse.Proofs.Clients
import Gatehouse.Proofs.FirstValues

/-! What a client is called by. One source alone gives the name: the address that a proxy reports, or
the first forwarded address if there is no such report, or the address of the peer if neither header is
of use. Peers are told apart by their addresses and by nothing else. -/
namespace Gatehouse.RateLimit

variable {headers others : Http.Headers} {peer another : Option Socket}

/-- The client of a request from a peer, whose socket is given by its text. -/
def clientOf (headers : Http.Headers) (peer : Option Socket) : List Char :=
  client headers (peer.bind fun socket => Address.ofSocketText? (String.ofList socket.toText))

/-- No header names the client. -/
structure IsSilent (headers : Http.Headers) : Prop where
  reported : ∀ text, ¬ headers.Holds "x-real-ip" text
  forwarded : ∀ text, ¬ headers.Lists "x-forwarded-for" text

/-- The source that gives a client this name. -/
inductive Identifies (headers : Http.Headers) (peer : Option Socket) : List Char → Prop
  | reported {text : List Char} (h : headers.Holds "x-real-ip" text) : Identifies headers peer text
  | forwarded {text : List Char} (hReported : ∀ text, ¬ headers.Holds "x-real-ip" text)
      (h : headers.Lists "x-forwarded-for" text) : Identifies headers peer text
  | peer {socket : Socket} (hSilent : IsSilent headers) (h : peer = some socket) :
      Identifies headers peer socket.address.toText
  | unknown (hSilent : IsSilent headers) (h : peer = none) : Identifies headers peer unknownClient

/-! ## One source -/

/-- The first client that was forwarded is the foremost value of that header. -/
theorem forwardedClient?_eq (headers : Http.Headers) :
    forwardedClient? headers = headers.foremost? "x-forwarded-for" := by
  unfold forwardedClient? Http.Headers.trimmed? Http.Headers.foremost?
  cases (headers.first? "x-forwarded-for").bind Text.readable? with
  | none => rfl
  | some value =>
      have hEntry : Text.trim (Text.before ',' (Text.trim value)) = Text.trim (Text.before ',' value) :=
        Text.trim_before_trim (by decide) value
      dsimp only
      rw [← hEntry]
      split
      · next hEmpty =>
        rw [List.isEmpty_iff.mp hEmpty]
        rfl
      · rfl

/-- The sources in their order: two headers, then the peer, then a name for nobody. -/
theorem clientOf_eq (headers : Http.Headers) (peer : Option Socket) :
    clientOf headers peer =
      ((headers.trimmed? "x-real-ip").or <| (headers.foremost? "x-forwarded-for").or <|
        peer.map fun socket => socket.address.toText).getD unknownClient := by
  rw [clientOf, client, forwardedClient?_eq]
  cases peer with
  | none => rfl
  | some socket => rw [Option.bind_some, socket.ofSocketText?_toText, Option.map_some, Option.map_some]

/-- Headers that say nothing leave the peer to identify the client. -/
theorem clientOf_of_isSilent (h : IsSilent headers) (peer : Option Socket) :
    clientOf headers peer = (peer.map fun socket => socket.address.toText).getD unknownClient := by
  rw [clientOf_eq, Http.Headers.trimmed?_eq_none_iff.mpr h.reported,
    Http.Headers.foremost?_eq_none_iff.mpr h.forwarded, Option.none_or, Option.none_or]

/-- The identifier is that of the first source there is. -/
theorem identifies_clientOf (headers : Http.Headers) (peer : Option Socket) :
    Identifies headers peer (clientOf headers peer) := by
  cases hReported : headers.trimmed? "x-real-ip" with
  | some text =>
      rw [clientOf_eq, hReported]
      exact .reported (Http.Headers.trimmed?_eq_some_iff.mp hReported)
  | none =>
      have hNoReport := Http.Headers.trimmed?_eq_none_iff.mp hReported
      cases hForwarded : headers.foremost? "x-forwarded-for" with
      | some text =>
          rw [clientOf_eq, hReported, hForwarded]
          exact .forwarded hNoReport (Http.Headers.foremost?_eq_some_iff.mp hForwarded)
      | none =>
          have hNoList := Http.Headers.foremost?_eq_none_iff.mp hForwarded
          have hSilent : IsSilent headers := ⟨hNoReport, hNoList⟩
          rw [clientOf_of_isSilent hSilent]
          cases peer with
          | some socket => exact .peer hSilent rfl
          | none => exact .unknown hSilent rfl

/-- No other text identifies the client. -/
theorem Identifies.eq_clientOf {text : List Char} (h : Identifies headers peer text) :
    clientOf headers peer = text := by
  cases h with
  | reported h =>
      rw [clientOf_eq, Http.Headers.trimmed?_eq_some_iff.mpr h, Option.some_or, Option.getD_some]
  | forwarded hReported h =>
      rw [clientOf_eq, Http.Headers.trimmed?_eq_none_iff.mpr hReported,
        Http.Headers.foremost?_eq_some_iff.mpr h, Option.none_or, Option.some_or, Option.getD_some]
  | peer hSilent h => rw [clientOf_of_isSilent hSilent, h, Option.map_some, Option.getD_some]
  | unknown hSilent h => rw [clientOf_of_isSilent hSilent, h, Option.map_none, Option.getD_none]

/-! ## Names -/

theorem trim_of_isSolid {text : List Char} (h : ∀ c ∈ text, Text.IsSolid c) : Text.trim text = text :=
  Text.trim_eq_self (fun c hc => (h c (List.mem_of_mem_head? hc)).2)
    fun c hc => (h c (List.mem_of_getLast? hc)).2

/-- An identifier is not empty and has no blanks around it. -/
theorem Identifies.traits {text : List Char} (h : Identifies headers peer text) :
    text ≠ [] ∧ Text.trim text = text := by
  have hStripped {value : List Char} (h : Text.Strips Text.isBlank value text) :
      Text.trim text = text := by
    rw [← Text.strips_isBlank_iff.mp h, Text.trim_trim]
  cases h with
  | reported h =>
      obtain ⟨value, -, -, hStrips, hSome⟩ := h
      exact ⟨hSome, hStripped hStrips⟩
  | forwarded _ h =>
      obtain ⟨entry, more, -, -, -, -, hStrips, hSome⟩ := h
      exact ⟨hSome, hStripped hStrips⟩
  | @peer socket _ _ =>
      exact ⟨Address.toText_ne socket.isValid rfl rfl,
        trim_of_isSolid socket.address.isSolid_of_mem_toText⟩
  | unknown _ _ => exact ⟨List.cons_ne_nil _ _, trim_of_isSolid isSolid_of_mem_unknownClient⟩

/-- Without a word from the headers, peers have the same name just if they have the same address. No
address is written like the name of clients without one. -/
theorem clientOf_eq_iff_of_isSilent (h : IsSilent headers) (hOthers : IsSilent others) :
    clientOf headers peer = clientOf others another ↔
      peer.map Socket.address = another.map Socket.address := by
  have hKnown (socket : Socket) : socket.address.toText ≠ unknownClient :=
    Address.toText_ne socket.isValid (by decide) (by decide)
  rw [clientOf_of_isSilent h, clientOf_of_isSilent hOthers]
  cases peer with
  | none =>
      cases another with
      | none => simp
      | some other => simpa using (hKnown other).symm
  | some socket =>
      cases another with
      | none => simpa using hKnown socket
      | some other => simpa using Address.toText_inj socket.isValid other.isValid

/-! ## What does not count -/

/-- The requests differ in what is not looked at: in other headers and in all values but the first, in
what stands behind a comma of the forwarding list, or, where one source gives the name, in those that
come after it. -/
inductive Overlooks (headers : Http.Headers) (peer : Option Socket) (others : Http.Headers)
    (another : Option Socket) : Prop
  | repeated (hReported : others.first? "x-real-ip" = headers.first? "x-real-ip")
      (hForwarded : others.first? "x-forwarded-for" = headers.first? "x-forwarded-for")
      (hPeer : another = peer) : Overlooks headers peer others another
  | entries {value other : Bytes} (hReported : others.first? "x-real-ip" = headers.first? "x-real-ip")
      (hValue : headers.first? "x-forwarded-for" = some value)
      (hOther : others.first? "x-forwarded-for" = some other)
      (hComma : Http.Headers.DifferBehindComma value other) (hPeer : another = peer) :
      Overlooks headers peer others another
  | belowReported {text : List Char} (hSource : headers.Holds "x-real-ip" text)
      (hReported : others.first? "x-real-ip" = headers.first? "x-real-ip") :
      Overlooks headers peer others another
  | belowForwarded {text : List Char} (hSource : headers.Lists "x-forwarded-for" text)
      (hReported : others.first? "x-real-ip" = headers.first? "x-real-ip")
      (hForwarded : others.first? "x-forwarded-for" = headers.first? "x-forwarded-for") :
      Overlooks headers peer others another

/-- What is overlooked does not change the identifier. -/
theorem Overlooks.clientOf_eq (h : Overlooks headers peer others another) :
    clientOf others another = clientOf headers peer := by
  rw [RateLimit.clientOf_eq, RateLimit.clientOf_eq]
  cases h with
  | repeated hReported hForwarded hPeer =>
      rw [Http.Headers.trimmed?_congr hReported, Http.Headers.foremost?_congr hForwarded, hPeer]
  | entries hReported hValue hOther hComma hPeer =>
      rw [Http.Headers.trimmed?_congr hReported,
        Http.Headers.foremost?_of_differBehindComma hValue hOther hComma, hPeer]
  | belowReported hSource hReported =>
      rw [Http.Headers.trimmed?_congr hReported, Http.Headers.trimmed?_eq_some_iff.mpr hSource,
        Option.some_or, Option.some_or]
  | belowForwarded hSource hReported hForwarded =>
      rw [Http.Headers.trimmed?_congr hReported, Http.Headers.foremost?_congr hForwarded,
        Http.Headers.foremost?_eq_some_iff.mpr hSource, Option.some_or, Option.some_or]

/-- A client has the name that one source gives, and nothing else that the request holds is looked at.
The name is not empty and has no blanks around it. Requests without a word about the client have the
same one just if their peers have the same address, or they have no peers. -/
theorem client_one_source (headers : Http.Headers) (peer : Option Socket) :
    (∀ text, clientOf headers peer = text ↔ Identifies headers peer text) ∧
    clientOf headers peer ≠ [] ∧ Text.trim (clientOf headers peer) = clientOf headers peer ∧
    ∀ others another,
      (Overlooks headers peer others another → clientOf others another = clientOf headers peer) ∧
      (IsSilent headers → IsSilent others →
        (clientOf headers peer = clientOf others another ↔
          peer.map Socket.address = another.map Socket.address)) := by
  have hIdentifies := identifies_clientOf headers peer
  refine ⟨fun text => ⟨?_, Identifies.eq_clientOf⟩, hIdentifies.traits.1, hIdentifies.traits.2,
    fun others another => ⟨Overlooks.clientOf_eq, clientOf_eq_iff_of_isSilent⟩⟩
  rintro rfl
  exact hIdentifies

/-- Behind an empty forwarding list, neither the port nor the scope of a peer makes a difference. -/
theorem scoped_peers_share_name :
    let headers : Http.Headers := ⟨[("x-forwarded-for", Bytes.ofText " , 10.0.0.1")]⟩
    let socket : Socket := ⟨.v6 [0xFE80, 0, 0, 0, 0, 0, 0, 1], by decide, 3, 8080⟩
    let other : Socket := ⟨.v6 [0xFE80, 0, 0, 0, 0, 0, 0, 1], by decide, 0, 9⟩
    socket.toText = "[fe80::1%3]:8080".toList ∧ other.toText = "[fe80::1]:9".toList ∧
      IsSilent headers ∧ clientOf headers (some socket) = clientOf headers (some other) := by
  intro headers socket other
  have hSilent : IsSilent headers :=
    ⟨Http.Headers.trimmed?_eq_none_iff.mp (by decide),
      Http.Headers.foremost?_eq_none_iff.mp (by decide)⟩
  obtain ⟨-, -, -, hPairs⟩ := client_one_source headers (some socket)
  exact ⟨by decide, by decide, hSilent,
    ((hPairs headers (some other)).2 hSilent hSilent).mpr rfl⟩

end Gatehouse.RateLimit
