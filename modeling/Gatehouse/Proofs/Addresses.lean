import Gatehouse.Address
import Gatehouse.Proofs.Hosts

/-! Addresses and their texts. An address is read back from its text, so no two addresses have the same
text. The text of a socket names a port and perhaps a scope besides, and neither is part of the address
that is read from it. -/
namespace Gatehouse

namespace Address

variable {bytes groups : List Nat}

/-- Four bytes, or eight groups of 16 bits. -/
def IsValid : Address → Prop
  | .v4 bytes => bytes.length = 4 ∧ ∀ byte ∈ bytes, byte < 256
  | .v6 groups => groups.length = 8 ∧ ∀ group ∈ groups, group < 65536

instance : DecidablePred IsValid
  | .v4 _ => inferInstanceAs (Decidable (_ ∧ _))
  | .v6 _ => inferInstanceAs (Decidable (_ ∧ _))

/-! ## Characters -/

section Characters

variable {P : Char → Prop}

/-- What is true of the digits of a base is true of all characters of a number in it. -/
theorem forall_mem_toDigits {base : Nat} (hLow : 1 < base)
    (hDigit : ∀ digit < base, P (Nat.digitChar digit)) (n : Nat) :
    ∀ c ∈ Nat.toDigits base n, P c := by
  induction n using Nat.strongRecOn with
  | ind n ih =>
      intro c hc
      rw [Nat.toDigits_eq_if hLow] at hc
      split at hc
      · next hSmall =>
        rw [List.mem_singleton.mp hc]
        exact hDigit n hSmall
      · next hLarge =>
        rcases List.mem_append.mp hc with hc | hc
        · exact ih (n / base) (Nat.div_lt_self (by omega) hLow) c hc
        · rw [List.mem_singleton.mp hc]
          exact hDigit _ (Nat.mod_lt n (by omega))

/-- Numbers are written in digits, with one character between them. -/
theorem forall_mem_numbers {base : Nat} (hLow : 1 < base)
    (hDigit : ∀ digit < base, P (Nat.digitChar digit)) {separator : Char} (hSeparator : P separator)
    (numbers : List Nat) : ∀ c ∈ [separator].intercalate (numbers.map (Nat.toDigits base)), P c := by
  refine Text.forall_mem_intercalate (by simpa using hSeparator) fun piece hPiece => ?_
  obtain ⟨n, -, rfl⟩ := List.mem_map.mp hPiece
  exact forall_mem_toDigits hLow hDigit n

theorem forall_mem_v4Text (hDigit : ∀ digit < 10, P (Nat.digitChar digit)) (hDot : P '.')
    (bytes : List Nat) : ∀ c ∈ v4Text bytes, P c :=
  forall_mem_numbers (by decide) hDigit hDot bytes

theorem forall_mem_groupsText (hDigit : ∀ digit < 16, P (Nat.digitChar digit)) (hColon : P ':')
    (groups : List Nat) : ∀ c ∈ groupsText groups, P c :=
  forall_mem_numbers (by decide) hDigit hColon groups

theorem forall_mem_v6Text (hDigit : ∀ digit < 16, P (Nat.digitChar digit)) (hDot : P '.')
    (hColon : P ':') (groups : List Nat) : ∀ c ∈ v6Text groups, P c := by
  have hGroups (groups : List Nat) : ∀ c ∈ groupsText groups, P c :=
    forall_mem_groupsText hDigit hColon groups
  have hF : P 'f' := hDigit 15 (by decide)
  unfold v6Text
  split
  · refine List.forall_mem_append.mpr ⟨by simp [hF, hColon], ?_⟩
    exact forall_mem_v4Text (fun digit h => hDigit digit (by omega)) hDot _
  · dsimp only
    split
    · exact hGroups groups
    · exact List.forall_mem_append.mpr ⟨hGroups _, List.forall_mem_cons.mpr
        ⟨hColon, List.forall_mem_cons.mpr ⟨hColon, hGroups _⟩⟩⟩

/-- What is true of the digits, the dot and the colon is true of every character of an address. -/
theorem forall_mem_toText (hDigit : ∀ digit < 16, P (Nat.digitChar digit)) (hDot : P '.')
    (hColon : P ':') (address : Address) : ∀ c ∈ address.toText, P c := by
  cases address with
  | v4 bytes => exact forall_mem_v4Text (fun digit h => hDigit digit (by omega)) hDot bytes
  | v6 groups => exact forall_mem_v6Text hDigit hDot hColon groups

end Characters

theorem not_mem_toDigits {c : Char} {base : Nat} (hLow : 1 < base)
    (hDigit : ∀ digit < base, Nat.digitChar digit ≠ c) (n : Nat) : c ∉ Nat.toDigits base n :=
  fun hMem => forall_mem_toDigits (P := (· ≠ c)) hLow hDigit n c hMem rfl

theorem not_mem_v4Text {c : Char} (hDigit : ∀ digit < 10, Nat.digitChar digit ≠ c) (hDot : '.' ≠ c)
    (bytes : List Nat) : c ∉ v4Text bytes :=
  fun hMem => forall_mem_v4Text (P := (· ≠ c)) hDigit hDot bytes c hMem rfl

theorem not_mem_groupsText {c : Char} (hDigit : ∀ digit < 16, Nat.digitChar digit ≠ c)
    (hColon : ':' ≠ c) (groups : List Nat) : c ∉ groupsText groups :=
  fun hMem => forall_mem_groupsText (P := (· ≠ c)) hDigit hColon groups c hMem rfl

theorem not_mem_v6Text {c : Char} (hDigit : ∀ digit < 16, Nat.digitChar digit ≠ c) (hDot : '.' ≠ c)
    (hColon : ':' ≠ c) (groups : List Nat) : c ∉ v6Text groups :=
  fun hMem => forall_mem_v6Text (P := (· ≠ c)) hDigit hDot hColon groups c hMem rfl

/-! ## Numbers -/

/-- The 256 numbers are gone through one by one. -/
theorem readByte?_toDigits : ∀ byte < 256, readByte? (Nat.toDigits 10 byte) = some byte := by
  decide +kernel

/-- Digits that were written for a number are read as that number. -/
theorem mapM_hexValue?_toDigits (n : Nat) :
    ∃ digits, (Nat.toDigits 16 n).mapM Bytes.hexValue? = some digits ∧
      digits.foldl (fun n d => 16 * n + d) 0 = n := by
  have hDigit : ∀ digit < 16, Bytes.hexValue? (Nat.digitChar digit) = some digit := by
    decide
  induction n using Nat.strongRecOn with
  | ind n ih =>
      rw [Nat.toDigits_eq_if (by decide)]
      split
      · next hSmall => exact ⟨[n], by simp [hDigit n hSmall], by simp⟩
      · next hLarge =>
        obtain ⟨digits, hRead, hValue⟩ := ih (n / 16) (by omega)
        refine ⟨digits ++ [n % 16], ?_, ?_⟩
        · simp [List.mapM_append, hRead, hDigit (n % 16) (Nat.mod_lt n (by decide))]
        · simp only [List.foldl_append, hValue, List.foldl_cons, List.foldl_nil]
          omega

/-- A group has at most four digits, which is what the reader takes. -/
theorem readGroup?_toDigits {group : Nat} (h : group < 65536) :
    readGroup? (Nat.toDigits 16 group) = some group := by
  obtain ⟨digits, hRead, hValue⟩ := mapM_hexValue?_toDigits group
  have hLength : (Nat.toDigits 16 group).length ≤ 4 :=
    (Nat.length_toDigits_le_iff (by decide) (by decide)).mpr h
  have hSome : 1 ≤ (Nat.toDigits 16 group).length := Nat.length_toDigits_pos
  rw [readGroup?, hRead]
  dsimp only [Option.bind_eq_bind, Option.bind_some]
  rw [if_pos ⟨hSome, hLength⟩, hValue]

/-- A list whose members can be read back can be read back. -/
theorem mapM_map_eq_some {α β : Type} {write : α → β} {read? : β → Option α} {values : List α}
    (h : ∀ value ∈ values, read? (write value) = some value) :
    (values.map write).mapM read? = some values := by
  induction values with
  | nil => rfl
  | cons value rest ih =>
      have hRest := ih fun other hOther => h other (List.mem_cons_of_mem _ hOther)
      simp [h value (List.mem_cons_self ..), hRest]

/-- Numbers with a separator between them come apart again, since no digit is the separator. -/
theorem splitOnP_numbers {base : Nat} (hLow : 1 < base) {separator : Char}
    (hDigit : ∀ digit < base, Nat.digitChar digit ≠ separator) {numbers : List Nat}
    (hSome : numbers ≠ []) :
    ([separator].intercalate (numbers.map (Nat.toDigits base))).splitOnP (· == separator) =
      numbers.map (Nat.toDigits base) := by
  refine List.splitOn_intercalate separator (fun piece hPiece => ?_) (by simpa using hSome)
  obtain ⟨n, -, rfl⟩ := List.mem_map.mp hPiece
  exact not_mem_toDigits hLow hDigit n

/-! ## Version 4 -/

/-- The dotted text of four bytes is read as these bytes. -/
theorem readV4?_v4Text (hLength : bytes.length = 4) (hBytes : ∀ byte ∈ bytes, byte < 256) :
    readV4? (v4Text bytes) = some bytes := by
  have hSplit : (v4Text bytes).splitOnP (· == '.') = bytes.map (Nat.toDigits 10) :=
    splitOnP_numbers (by decide) (by decide) (List.ne_nil_of_length_eq_add_one hLength)
  have hRead : (bytes.map (Nat.toDigits 10)).mapM readByte? = some bytes :=
    mapM_map_eq_some fun byte hByte => readByte?_toDigits byte (hBytes byte hByte)
  rw [readV4?, hSplit, hRead]
  exact if_pos hLength

/-! ## Groups -/

theorem groupsText_cons_cons (group next : Nat) (rest : List Nat) :
    groupsText (group :: next :: rest) =
      Nat.toDigits 16 group ++ ':' :: groupsText (next :: rest) := by
  simp [groupsText, List.intercalate_cons_cons]

/-- The text of some groups is not empty, and no colon comes first in it. -/
theorem exists_groupsText (group : Nat) (groups : List Nat) :
    ∃ c text, groupsText (group :: groups) = c :: text ∧ c ≠ ':' := by
  have hText : ∃ rest, groupsText (group :: groups) = Nat.toDigits 16 group ++ rest := by
    cases groups with
    | nil => exact ⟨[], by simp [groupsText]⟩
    | cons next groups => exact ⟨_, groupsText_cons_cons group next groups⟩
  obtain ⟨rest, hText⟩ := hText
  have hColon : ':' ∉ Nat.toDigits 16 group := not_mem_toDigits (by decide) (by decide) group
  obtain ⟨c, digits, hDigits⟩ :=
    List.exists_cons_of_length_pos (Nat.length_toDigits_pos (b := 16) (n := group))
  rw [hDigits, List.mem_cons, not_or] at hColon
  exact ⟨c, digits ++ rest, by rw [hText, hDigits, List.cons_append], Ne.symm hColon.1⟩

theorem readPieces?_map (hGroups : ∀ group ∈ groups, group < 65536) :
    readPieces? (groups.map (Nat.toDigits 16)) = some groups := by
  induction groups with
  | nil => rfl
  | cons group rest ih =>
      have hGroup := readGroup?_toDigits (hGroups group (List.mem_cons_self ..))
      have hRest := ih fun other hOther => hGroups other (List.mem_cons_of_mem _ hOther)
      cases rest with
      | nil =>
          have hDot : '.' ∉ Nat.toDigits 16 group := not_mem_toDigits (by decide) (by decide) group
          simp [readPieces?, hDot, hGroup]
      | cons next rest =>
          rw [List.map_cons] at hRest
          simp [readPieces?, hGroup, hRest]

/-- A row of groups is read back, also an empty one. -/
theorem readGroups?_groupsText (hGroups : ∀ group ∈ groups, group < 65536) :
    readGroups? (groupsText groups) = some groups := by
  cases groups with
  | nil => rfl
  | cons group rest =>
      have hSome : groupsText (group :: rest) ≠ [] := by
        obtain ⟨c, text, hText, -⟩ := exists_groupsText group rest
        rw [hText]
        exact List.cons_ne_nil c text
      have hSplit : (groupsText (group :: rest)).splitOnP (· == ':') =
          (group :: rest).map (Nat.toDigits 16) :=
        splitOnP_numbers (by decide) (by decide) (List.cons_ne_nil group rest)
      rw [readGroups?, if_neg (by simpa using hSome), hSplit, readPieces?_map hGroups]

/-! ## Gaps -/

/-- The gap is not here unless two colons are. -/
theorem splitAtGap_cons {c : Char} {rest : List Char} (h : c ≠ ':' ∨ rest.head? ≠ some ':') :
    splitAtGap (c :: rest) = (splitAtGap rest).map fun (left, right) => (c :: left, right) := by
  rw [splitAtGap]
  rintro tail rfl rfl
  simp at h

theorem splitAtGap_append {text : List Char} (h : ':' ∉ text) (rest : List Char) :
    splitAtGap (text ++ rest) =
      (splitAtGap rest).map fun (left, right) => (text ++ left, right) := by
  induction text with
  | nil => simp
  | cons c text ih =>
      have hColon : c ≠ ':' := fun hSame => h (hSame ▸ List.mem_cons_self ..)
      have hRest := ih fun hMem => h (List.mem_cons_of_mem _ hMem)
      rw [List.cons_append, splitAtGap_cons (.inl hColon), hRest]
      simp [Function.comp_def]

/-- There is no gap in a text of groups. -/
theorem splitAtGap_groupsText (groups : List Nat) (rest : List Char) :
    splitAtGap (groupsText groups ++ rest) =
      (splitAtGap rest).map fun (left, right) => (groupsText groups ++ left, right) := by
  have hColon (group : Nat) : ':' ∉ Nat.toDigits 16 group :=
    not_mem_toDigits (by decide) (by decide) group
  induction groups with
  | nil => simp [groupsText]
  | cons group groups ih =>
      cases groups with
      | nil => simpa [groupsText] using splitAtGap_append (hColon group) rest
      | cons next groups =>
          -- One colon ends a group, and the next group does not begin with another.
          have hHead : (groupsText (next :: groups) ++ rest).head? ≠ some ':' := by
            obtain ⟨c, text, hText, hNot⟩ := exists_groupsText next groups
            simpa [hText] using hNot
          rw [groupsText_cons_cons, List.append_assoc, splitAtGap_append (hColon group),
            List.cons_append, splitAtGap_cons (.inr hHead), ih]
          simp [Function.comp_def]

/-- The run of zeros that is left out stands between the other groups. -/
theorem longestZeros_spec (index : Nat) (groups : List Nat) :
    ∃ front back, groups = front ++ List.replicate (longestZeros index groups).2 0 ++ back ∧
      (longestZeros index groups).1 = index + front.length := by
  induction groups generalizing index with
  | nil => exact ⟨[], [], rfl, rfl⟩
  | cons group rest ih =>
      rw [longestZeros]
      split
      · have hZeros : (group :: rest).takeWhile (· == 0) =
            List.replicate (zeros (group :: rest)) 0 :=
          List.eq_replicate_of_mem fun n hn => by simpa using List.mem_takeWhile_imp hn
        refine ⟨[], (group :: rest).dropWhile (· == 0), ?_, rfl⟩
        rw [List.nil_append, ← hZeros, List.takeWhile_append_dropWhile]
      · obtain ⟨front, back, hRest, hStart⟩ := ih (index + 1)
        refine ⟨group :: front, back, by rw [List.cons_append, List.cons_append, ← hRest], ?_⟩
        rw [hStart, List.length_cons]
        omega

/-! ## Version 6 -/

/-- The last piece may be four bytes with dots, which are two groups. -/
theorem readPieces?_v4Text (hLength : bytes.length = 4) (hBytes : ∀ byte ∈ bytes, byte < 256)
    {piece : List Char} {group : Nat} (hGroup : readGroup? piece = some group) :
    readPieces? [piece, v4Text bytes] = some (group :: groupsOfV4 bytes) := by
  have hDot : '.' ∈ v4Text bytes := by
    match bytes, hLength with
    | [_, _, _, _], _ => simp [v4Text, List.intercalate_cons_cons]
  simp [readPieces?, hGroup, hDot, readV4?_v4Text hLength hBytes]

/-- The text for an address of the older kind among the newer ones. -/
theorem readV6?_mapped (hLength : bytes.length = 4) (hBytes : ∀ byte ∈ bytes, byte < 256) :
    readV6? ("::ffff:".toList ++ v4Text bytes) =
      some ([0, 0, 0, 0, 0, 0xFFFF] ++ groupsOfV4 bytes) := by
  have hGap : splitAtGap ("::ffff:".toList ++ v4Text bytes) =
      some ([], "ffff".toList ++ ':' :: v4Text bytes) := rfl
  have hColon : ∀ c ∈ v4Text bytes, (c == ':') = false := fun c hc =>
    beq_eq_false_iff_ne.mpr fun hSame => not_mem_v4Text (by decide) (by decide) bytes (hSame ▸ hc)
  have hOther : ∀ c ∈ "ffff".toList, (c == ':') = false := Text.forall_of_all (by decide)
  have hSplit : ("ffff".toList ++ ':' :: v4Text bytes).splitOnP (· == ':') =
      ["ffff".toList, v4Text bytes] := by
    rw [List.splitOnP_append_cons_of_forall_mem hOther ':' rfl, List.splitOnP_eq_singleton hColon]
  have hRead : readGroups? ("ffff".toList ++ ':' :: v4Text bytes) =
      some (0xFFFF :: groupsOfV4 bytes) := by
    rw [readGroups?, hSplit]
    exact readPieces?_v4Text hLength hBytes (by decide)
  have hGroups : (groupsOfV4 bytes).length = 2 := by
    match bytes, hLength with
    | [_, _, _, _], _ => rfl
  have hEmpty : readGroups? [] = some [] := rfl
  rw [readV6?, hGap]
  generalize "ffff".toList ++ ':' :: v4Text bytes = right at hRead
  simp [hEmpty, hRead, hGroups]

theorem readV6?_groupsText (hLength : groups.length = 8) (hGroups : ∀ group ∈ groups, group < 65536) :
    readV6? (groupsText groups) = some groups := by
  have hGap := splitAtGap_groupsText groups []
  rw [List.append_nil] at hGap
  rw [readV6?, hGap]
  simp [splitAtGap, readGroups?_groupsText hGroups, hLength]

/-- The gap stands for as many zeros as there are groups missing. -/
theorem readV6?_gap {front back : List Nat} (hFront : ∀ group ∈ front, group < 65536)
    (hBack : ∀ group ∈ back, group < 65536) (hLength : front.length + back.length < 8) :
    readV6? (groupsText front ++ ':' :: ':' :: groupsText back) =
      some (front ++ List.replicate (8 - front.length - back.length) 0 ++ back) := by
  have hGap := splitAtGap_groupsText front (':' :: ':' :: groupsText back)
  rw [splitAtGap] at hGap
  have hDot : '.' ∉ groupsText front := not_mem_groupsText (by decide) (by decide) front
  rw [readV6?, hGap]
  simp [readGroups?_groupsText hFront, readGroups?_groupsText hBack, hDot, hLength]
  omega

/-- All three forms that an address of eight groups is written in are read back. -/
theorem readV6?_v6Text (hLength : groups.length = 8) (hGroups : ∀ group ∈ groups, group < 65536) :
    readV6? (v6Text groups) = some groups := by
  unfold v6Text
  split
  · next high low =>
    have hHigh : high < 65536 := hGroups high (by simp)
    have hLow : low < 65536 := hGroups low (by simp)
    rw [readV6?_mapped rfl (by simp; omega)]
    simp [groupsOfV4, Nat.div_add_mod]
  · obtain ⟨front, back, hSplit, hStart⟩ := longestZeros_spec 0 groups
    generalize longestZeros 0 groups = run at hSplit hStart
    obtain ⟨start, length⟩ := run
    dsimp only at hSplit hStart ⊢
    split
    · exact readV6?_groupsText hLength hGroups
    · next hLong =>
      rw [Nat.zero_add] at hStart
      subst hStart hSplit
      simp only [List.length_append, List.length_replicate] at hLength
      have hFront : ∀ group ∈ front, group < 65536 := fun group h => hGroups group (by simp [h])
      have hBack : ∀ group ∈ back, group < 65536 := fun group h => hGroups group (by simp [h])
      have hTake : (front ++ List.replicate length 0 ++ back).take front.length = front := by
        simp
      have hDrop : (front ++ List.replicate length 0 ++ back).drop (front.length + length) = back := by
        simp
      -- As many zeros are put in the gap as were left out there.
      rw [hTake, hDrop, readV6?_gap hFront hBack (by omega)]
      congr 4
      omega

/-! ## Texts -/

theorem colon_mem_v6Text (hLength : groups.length = 8) : ':' ∈ v6Text groups := by
  have hGroups : ':' ∈ groupsText groups := by
    match groups, hLength with
    | group :: next :: rest, _ => simp [groupsText_cons_cons]
  unfold v6Text
  split
  · exact List.mem_append_left _ (by decide)
  · dsimp only
    split
    · exact hGroups
    · simp

/-- The two kinds of addresses have no text in common, for only one has colons. -/
theorem v4Text_ne_v6Text (bytes : List Nat) (hLength : groups.length = 8) :
    v4Text bytes ≠ v6Text groups := by
  have hColon : ':' ∉ v4Text bytes := not_mem_v4Text (by decide) (by decide) bytes
  exact fun hSame => hColon (hSame ▸ colon_mem_v6Text hLength)

/-- Addresses with the same text are the same. -/
theorem toText_inj {address other : Address} (h : address.IsValid) (hOther : other.IsValid) :
    address.toText = other.toText ↔ address = other := by
  refine ⟨fun hText => ?_, fun hSame => hSame ▸ rfl⟩
  cases address with
  | v4 bytes =>
      cases other with
      | v4 others =>
          have hRead := congrArg readV4? hText
          rw [toText, toText, readV4?_v4Text h.1 h.2, readV4?_v4Text hOther.1 hOther.2] at hRead
          rw [Option.some.inj hRead]
      | v6 groups => exact absurd hText (v4Text_ne_v6Text bytes hOther.1)
  | v6 groups =>
      cases other with
      | v4 bytes => exact absurd hText.symm (v4Text_ne_v6Text bytes h.1)
      | v6 others =>
          have hRead := congrArg readV6? hText
          rw [toText, toText, readV6?_v6Text h.1 h.2, readV6?_v6Text hOther.1 hOther.2] at hRead
          rw [Option.some.inj hRead]

/-- A text from which no address is read is the text of none. -/
theorem toText_ne {address : Address} (h : address.IsValid) {text : List Char}
    (hV4 : readV4? text = none) (hV6 : readV6? text = none) : address.toText ≠ text := by
  rintro rfl
  cases address with
  | v4 bytes => cases (readV4?_v4Text h.1 h.2).symm.trans hV4
  | v6 groups => cases (readV6?_v6Text h.1 h.2).symm.trans hV6

end Address

/-! ## Sockets -/

/-- An address with a port and, in version 6, a scope. -/
structure Socket where
  address : Address
  isValid : address.IsValid
  scope : Nat
  port : Nat

namespace Socket

/-- No scope is written if it is zero. -/
def scopeText (scope : Nat) : List Char :=
  if scope = 0 then [] else '%' :: Nat.toDigits 10 scope

def toText (socket : Socket) : List Char :=
  match socket.address with
  | .v4 bytes => Address.v4Text bytes ++ ':' :: Nat.toDigits 10 socket.port
  | .v6 groups =>
    '[' :: (Address.v6Text groups ++ scopeText socket.scope ++
      ']' :: ':' :: Nat.toDigits 10 socket.port)

theorem not_mem_scopeText {c : Char} (hDigit : ∀ digit < 10, Nat.digitChar digit ≠ c)
    (hPercent : c ≠ '%') (scope : Nat) : c ∉ scopeText scope := by
  unfold scopeText
  split
  · simp
  · simp [hPercent, Address.not_mem_toDigits (by decide) hDigit]

/-- From the text of a socket its address is read, whatever the port and the scope are. -/
theorem ofSocketText?_toText (socket : Socket) :
    Address.ofSocketText? (String.ofList socket.toText) = some socket.address := by
  obtain ⟨address, hValid, scope, port⟩ := socket
  rw [Address.ofSocketText?, String.toList_ofList, toText]
  cases address with
  | v4 bytes =>
      have hBracket : '[' ∉ Address.v4Text bytes ++ ':' :: Nat.toDigits 10 port := by
        have hDigit : ∀ digit < 10, Nat.digitChar digit ≠ '[' := by
          decide
        simp [Address.not_mem_v4Text hDigit, Address.not_mem_toDigits (by decide) hDigit]
      have hColon : ':' ∉ Address.v4Text bytes := Address.not_mem_v4Text (by decide) (by decide) bytes
      split
      · next rest hText =>
        dsimp only at hText
        exact absurd (hText ▸ List.mem_cons_self ..) hBracket
      · simp [Text.splitOnce_append hColon, Address.readV4?_v4Text hValid.1 hValid.2]
  | v6 groups =>
      have hBracket : ']' ∉ Address.v6Text groups ++ scopeText scope := by
        simp [Address.not_mem_v6Text (c := ']') (by decide) (by decide) (by decide),
          not_mem_scopeText (c := ']') (by decide) (by decide)]
      have hBefore : Text.before '%' (Address.v6Text groups ++ scopeText scope) =
          Address.v6Text groups := by
        refine Text.before_append (Address.not_mem_v6Text (by decide) (by decide) (by decide) groups) ?_
        unfold scopeText
        split <;> simp
      simp only [Text.splitOnce_append hBracket, Option.bind_eq_bind, Option.bind_some, hBefore,
        Address.readV6?_v6Text hValid.1 hValid.2, Option.map_some]

end Socket

end Gatehouse
