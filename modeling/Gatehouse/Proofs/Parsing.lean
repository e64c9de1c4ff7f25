import Gatehouse.Proofs.Reading

/-! A sequence of tokens is read as a value just if it is the one of that value, and so a text is
read as a value just if it is a text of that value. -/
namespace Gatehouse.Json

variable {α : Type}

/-! ## From the value -/

/-- A token that can be taken is taken. -/
theorem readValue?_cons {expect next : Expect α} {stack after : List (Frame α)} {token : Token α}
    (h : step expect stack token = some (next, after)) (rest : List (Token α)) :
    readValue? expect stack (token :: rest) = readValue? next after rest := by
  cases expect <;> simp [readValue?, h]

theorem itemTokens_cons (item : Json α) (more : List (Json α)) :
    ∃ later, itemTokens (item :: more) = item.tokens ++ later := by
  cases more with
  | nil => exact ⟨[], (List.append_nil _).symm⟩
  | cons next more => exact ⟨_, rfl⟩

theorem memberTokens_cons (key : α) (value : Json α) (more : List (α × Json α)) :
    ∃ later, memberTokens ((key, value) :: more) = .string key :: later := by
  cases more with
  | nil => exact ⟨_, rfl⟩
  | cons next more => exact ⟨_, rfl⟩

/-- Where a first item may come, a value is read as one. -/
theorem readValue?_firstItem (value : Json α) (stack : List (Frame α)) (rest : List (Token α)) :
    readValue? .itemOrEnd stack (value.tokens ++ rest) =
      readValue? .value (.array [] :: stack) (value.tokens ++ rest) := by
  cases value with
  | array items => simp [tokens, readValue?, step, beginValue]
  | object members => simp [tokens, readValue?, step, beginValue]
  | _ => rfl

mutual

/-- The tokens of a value are read up to that value, whatever is open around it and whatever
follows. -/
theorem readValue?_tokens : (value : Json α) → (stack : List (Frame α)) →
    (rest : List (Token α)) →
    readValue? .value stack (value.tokens ++ rest) = readValue? (.after value) stack rest
  | .null, _, _ => readValue?_cons rfl _
  | .bool _, _, _ => readValue?_cons rfl _
  | .number _, _, _ => readValue?_cons rfl _
  | .string _, _, _ => readValue?_cons rfl _
  | .array [], stack, rest => by
      rw [tokens, itemTokens]
      exact (readValue?_cons rfl _).trans (readValue?_cons rfl _)
  | .array (item :: more), stack, rest => by
      obtain ⟨later, hLater⟩ := itemTokens_cons item more
      rw [tokens, List.cons_append, List.cons_append, List.append_assoc]
      refine (readValue?_cons rfl _).trans ?_
      rw [hLater, List.append_assoc, readValue?_firstItem, ← List.append_assoc, ← hLater]
      exact readValue?_itemTokens (item :: more) (List.cons_ne_nil _ _) [] stack rest
  | .object [], stack, rest => by
      rw [tokens, memberTokens]
      exact (readValue?_cons rfl _).trans (readValue?_cons rfl _)
  | .object ((key, value) :: more), stack, rest => by
      obtain ⟨later, hLater⟩ := memberTokens_cons key value more
      rw [tokens, List.cons_append, List.cons_append, List.append_assoc]
      refine (readValue?_cons rfl _).trans ?_
      have hMembers := readValue?_memberTokens ((key, value) :: more) (List.cons_ne_nil _ _) []
        stack rest
      rw [hLater] at hMembers ⊢
      exact hMembers

/-- In an array the items that were read before stay in front. -/
theorem readValue?_itemTokens : (more : List (Json α)) → more ≠ [] → (items : List (Json α)) →
    (stack : List (Frame α)) → (rest : List (Token α)) →
    readValue? .value (.array items :: stack) (itemTokens more ++ .closeBracket :: rest) =
      readValue? (.after (.array (items.reverse ++ more))) stack rest
  | [], h, _, _, _ => (h rfl).elim
  | [item], _, items, stack, rest => by
      rw [itemTokens, readValue?_tokens item]
      exact (readValue?_cons rfl _).trans (by simp)
  | item :: next :: more, _, items, stack, rest => by
      change readValue? _ _ ((item.tokens ++ .comma :: itemTokens (next :: more)) ++ _) = _
      rw [List.append_assoc, readValue?_tokens item, List.cons_append]
      refine (readValue?_cons rfl _).trans ?_
      rw [readValue?_itemTokens (next :: more) (List.cons_ne_nil _ _), List.reverse_cons,
        List.append_assoc]
      rfl

/-- In an object the members that were read before stay in front. -/
theorem readValue?_memberTokens : (more : List (α × Json α)) → more ≠ [] →
    (members : List (α × Json α)) → (stack : List (Frame α)) → (rest : List (Token α)) →
    readValue? (.key members) stack (memberTokens more ++ .closeBrace :: rest) =
      readValue? (.after (.object (members.reverse ++ more))) stack rest
  | [], h, _, _, _ => (h rfl).elim
  | [(key, value)], _, members, stack, rest => by
      change readValue? _ _ (.string key :: .colon :: (value.tokens ++ _)) = _
      refine (readValue?_cons rfl _).trans ((readValue?_cons rfl _).trans ?_)
      rw [readValue?_tokens value]
      exact (readValue?_cons rfl _).trans (by simp)
  | (key, value) :: next :: more, _, members, stack, rest => by
      change readValue? _ _ (.string key :: .colon ::
        ((value.tokens ++ .comma :: memberTokens (next :: more)) ++ _)) = _
      refine (readValue?_cons rfl _).trans ((readValue?_cons rfl _).trans ?_)
      rw [List.append_assoc, readValue?_tokens value, List.cons_append]
      refine (readValue?_cons rfl _).trans ?_
      rw [readValue?_memberTokens (next :: more) (List.cons_ne_nil _ _), List.reverse_cons,
        List.append_assoc]
      rfl

end

/-- The tokens of a value are those of no other value. -/
theorem ofTokens?_tokens (value : Json α) : ofTokens? value.tokens = some value := by
  have hRead := readValue?_tokens value [] []
  rw [List.append_nil] at hRead
  rw [ofTokens?, hRead, readValue?]

/-! ## From the tokens -/

/-- Items with a comma behind each. -/
def itemPrefix (items : List (Json α)) : List (Token α) :=
  items.flatMap fun item => item.tokens ++ [.comma]

/-- Members with a comma behind each. -/
def memberPrefix (members : List (α × Json α)) : List (Token α) :=
  members.flatMap fun (key, value) => .string key :: .colon :: value.tokens ++ [.comma]

/-- The last item comes after a comma, unless it is the only one. -/
theorem itemTokens_concat (items : List (Json α)) (last : Json α) :
    itemTokens (items ++ [last]) = itemPrefix items ++ last.tokens := by
  induction items with
  | nil => rfl
  | cons item items ih =>
      have hMore : items ++ [last] ≠ [] := by simp
      rw [List.cons_append, itemTokens.eq_3 _ _ hMore, ih]
      simp [itemPrefix]

theorem memberTokens_concat (members : List (α × Json α)) (key : α) (value : Json α) :
    memberTokens (members ++ [(key, value)]) =
      memberPrefix members ++ .string key :: .colon :: value.tokens := by
  induction members with
  | nil => rfl
  | cons member members ih =>
      have hMore : members ++ [(key, value)] ≠ [] := by simp
      rw [List.cons_append, memberTokens.eq_3 _ _ _ hMore, ih]
      simp [memberPrefix]

/-- The tokens read for an array or object that is still open. -/
def Frame.tokens : Frame α → List (Token α)
  | .array items => .openBracket :: itemPrefix items.reverse
  | .object members key => .openBrace :: memberPrefix members.reverse ++ [.string key, .colon]

/-- The tokens read for all that is still open, the outermost first. -/
def stackTokens (stack : List (Frame α)) : List (Token α) :=
  stack.reverse.flatMap Frame.tokens

/-- The tokens read that belong to nothing on the stack. -/
def Expect.tokens : Expect α → List (Token α)
  | .value => []
  | .itemOrEnd => [.openBracket]
  | .keyOrEnd => [.openBrace]
  | .key members => .openBrace :: memberPrefix members.reverse
  | .colon members name => .openBrace :: memberPrefix members.reverse ++ [.string name]
  | .after complete => complete.tokens

theorem stackTokens_cons (frame : Frame α) (stack : List (Frame α)) :
    stackTokens (frame :: stack) = stackTokens stack ++ frame.tokens := by
  simp [stackTokens]

variable {expect next : Expect α} {stack after : List (Frame α)} {token : Token α}

/-- The token that begins a value is all that is read of it. -/
theorem beginValue_tokens (h : beginValue stack token = some (next, after)) :
    stackTokens after ++ next.tokens = stackTokens stack ++ [token] := by
  cases token <;> cases h <;> simp [Expect.tokens, tokens]

/-- After a value nothing that was read is lost: what is open says it all. -/
theorem continueAfter_tokens {value : Json α}
    (h : continueAfter value stack token = some (next, after)) :
    stackTokens after ++ next.tokens = stackTokens stack ++ value.tokens ++ [token] := by
  unfold continueAfter at h
  split at h <;> cases h
  case h_1 items =>
    simp [stackTokens_cons, Frame.tokens, Expect.tokens, itemPrefix]
  case h_2 items =>
    have hItems := itemTokens_concat items.reverse value
    simp [stackTokens_cons, Frame.tokens, Expect.tokens, tokens, hItems]
  case h_3 members key =>
    simp [stackTokens_cons, Frame.tokens, Expect.tokens, memberPrefix]
  case h_4 members key =>
    have hMembers := memberTokens_concat members.reverse key value
    simp [stackTokens_cons, Frame.tokens, Expect.tokens, tokens, hMembers]

/-- The state tells all the tokens that were read. -/
theorem step_tokens (h : step expect stack token = some (next, after)) :
    stackTokens after ++ next.tokens = stackTokens stack ++ expect.tokens ++ [token] := by
  unfold step at h
  split at h
  case h_1 => simpa [Expect.tokens] using beginValue_tokens h
  case h_2 =>
    cases h
    simp [Expect.tokens, tokens, itemTokens]
  case h_3 =>
    have hBegin := beginValue_tokens h
    simpa [stackTokens_cons, Frame.tokens, itemPrefix, Expect.tokens] using hBegin
  case h_4 =>
    cases h
    simp [Expect.tokens, tokens, memberTokens]
  case h_8 => exact continueAfter_tokens h
  case h_9 => cases h
  all_goals
    cases h
    simp [stackTokens_cons, Frame.tokens, Expect.tokens, memberPrefix]

/-- Tokens that are read as a value are the tokens of that value. -/
theorem tokens_of_readValue? {tokens : List (Token α)} {value : Json α}
    (h : readValue? expect stack tokens = some value) :
    stackTokens stack ++ expect.tokens ++ tokens = value.tokens := by
  induction tokens generalizing expect stack with
  | nil =>
      rcases expect with _ | _ | _ | _ | _ | complete <;> cases stack <;> cases h
      simp [stackTokens, Expect.tokens]
  | cons token tokens ih =>
      obtain ⟨next, after, hStep⟩ : ∃ next after, step expect stack token = some (next, after) := by
        cases hStep : step expect stack token with
        | none => cases expect <;> simp [readValue?, hStep] at h
        | some state => exact ⟨_, _, rfl⟩
      rw [readValue?_cons hStep] at h
      rw [← ih h, step_tokens hStep, List.append_assoc _ [token], List.singleton_append]

/-- A row of tokens is a value just if it is the row of that value. -/
theorem ofTokens?_eq_some_iff {tokens : List (Token α)} {value : Json α} :
    ofTokens? tokens = some value ↔ tokens = value.tokens := by
  constructor
  · intro h
    exact tokens_of_readValue? h
  · rintro rfl
    exact ofTokens?_tokens value

/-- A text is read as a value just if it is a text of that value. -/
theorem parse?_eq_some_iff {bytes : Bytes} {value : Json (Option String)} :
    parse? bytes = some value ↔ IsTextOf value bytes := by
  rw [parse?, Option.bind_eq_some_iff]
  constructor
  · rintro ⟨tokens, hLex, hValue⟩
    rw [ofTokens?_eq_some_iff] at hValue
    subst hValue
    exact spells_of_lex? hLex
  · intro h
    exact ⟨value.tokens, lex?_of_spells h (separated_tokens value), ofTokens?_tokens value⟩

end Gatehouse.Json
