import DispatchCache.Json.Value
import DispatchCache.Proofs.Json.Lexing

/-! # How values are written

A value has one sequence of tokens, whatever it is nested in and however its tokens are written.
Reading a text of these tokens gives the value back. -/

namespace DispatchCache.Json

mutual

/-- The tokens of a value. -/
def tokens : Json → List Token
  | .null => [.null]
  | .bool value => [.bool value]
  | .number text => [.number text]
  | .string text => [.string text]
  | .array [] => [.openArray, .closeArray]
  | .array (item :: items) => .openArray :: (item.tokens ++ laterItems items)
  | .object [] => [.openObject, .closeObject]
  | .object (field :: fields) => .openObject :: (fieldTokens field ++ laterFields fields)

/-- What is left of an array behind one of its items. -/
def laterItems : List Json → List Token
  | [] => [.closeArray]
  | item :: items => .comma :: (item.tokens ++ laterItems items)

def fieldTokens : Option String × Json → List Token
  | (key, value) => .string key :: .colon :: value.tokens

/-- What is left of an object behind one of its fields. -/
def laterFields : List (Option String × Json) → List Token
  | [] => [.closeObject]
  | field :: fields => .comma :: (fieldTokens field ++ laterFields fields)

end

namespace Assembly

variable {assembly : Assembly}

/-- Where a value goes is told by what is open. -/
theorem complete_expected (assembly : Assembly) (expected : Expected) (value : Json) :
    ({ assembly with expected } : Assembly).complete value = assembly.complete value := by
  rcases assembly with ⟨_ | ⟨frame, stack⟩, before, whole⟩
  · rfl
  · cases frame <;> rfl

/-- Where a value may stand, all that does not close an array begins one. -/
theorem step_of_ready (ready : assembly.expected = .value ∨ assembly.expected = .firstItem)
    {token : Token} (other : token ≠ .closeArray) :
    assembly.step token = assembly.beginValue token := by
  rcases ready with ready | ready <;> simp [step, ready, other]

mutual

theorem foldlM_tokens (value : Json) (assembly : Assembly)
    (ready : assembly.expected = .value ∨ assembly.expected = .firstItem) :
    value.tokens.foldlM step assembly = assembly.complete value := by
  -- A value of one token.
  have single {token : Token} (other : token ≠ .closeArray)
      (begins : assembly.beginValue token = assembly.complete value) :
      [token].foldlM step assembly = assembly.complete value := by
    rw [List.foldlM_cons, step_of_ready ready other, begins]
    exact bind_pure _
  match value with
  | .null => exact single (by decide) rfl
  | .bool _ => exact single (by simp) rfl
  | .number _ => exact single (by simp) rfl
  | .string _ => exact single (by simp) rfl
  | .array [] =>
    rw [tokens, List.foldlM_cons, step_of_ready ready (by decide)]
    exact (bind_pure _).trans (assembly.complete_expected .firstItem _)
  | .array (item :: items) =>
    have first := foldlM_tokens item
      { assembly with stack := .array [] :: assembly.stack, expected := .firstItem } (.inr rfl)
    have rest := foldlM_laterItems items [item] assembly.stack assembly.whole
    rw [tokens, List.foldlM_cons, step_of_ready ready (by decide), beginValue,
      Option.bind_eq_bind, Option.bind_some, List.foldlM_append, first]
    exact rest.trans (assembly.complete_expected .separator _)
  | .object [] =>
    rw [tokens, List.foldlM_cons, step_of_ready ready (by decide)]
    exact (bind_pure _).trans (assembly.complete_expected .firstKey _)
  | .object (field :: fields) =>
    have first := foldlM_fieldTokens field [] assembly.stack assembly.whole (.inr rfl)
    have rest := foldlM_laterFields fields [field] assembly.stack assembly.whole
    rw [tokens, List.foldlM_cons, step_of_ready ready (by decide), beginValue,
      Option.bind_eq_bind, Option.bind_some, List.foldlM_append, first]
    exact rest.trans (assembly.complete_expected .separator _)

theorem foldlM_laterItems (items done : List Json) (stack : List Frame) (whole : Option Json) :
    (laterItems items).foldlM step ⟨.array done :: stack, .separator, whole⟩ =
      complete ⟨stack, .separator, whole⟩ (.array (done.reverse ++ items)) := by
  match items with
  | [] =>
    rw [laterItems, List.append_nil]
    exact bind_pure _
  | item :: items =>
    have first := foldlM_tokens item ⟨.array done :: stack, .value, whole⟩ (.inl rfl)
    have rest := foldlM_laterItems items (item :: done) stack whole
    rw [List.reverse_cons, List.append_assoc] at rest
    rw [laterItems, List.foldlM_cons]
    show (item.tokens ++ laterItems items).foldlM step ⟨.array done :: stack, .value, whole⟩ = _
    rw [List.foldlM_append, first]
    exact rest

theorem foldlM_fieldTokens (field : Option String × Json) (done : List (Option String × Json))
    (stack : List Frame) (whole : Option Json) {expected : Expected}
    (ready : expected = .key ∨ expected = .firstKey) :
    (fieldTokens field).foldlM step ⟨.object done :: stack, expected, whole⟩ =
      some ⟨.object (field :: done) :: stack, .separator, whole⟩ := by
  match field with
  | (key, value) =>
    have read := foldlM_tokens value ⟨.field done key :: stack, .value, whole⟩ (.inl rfl)
    have begun : step ⟨.object done :: stack, expected, whole⟩ (.string key) =
        some ⟨.field done key :: stack, .colon, whole⟩ := by
      rcases ready with rfl | rfl <;> rfl
    rw [fieldTokens, List.foldlM_cons, begun]
    exact read

theorem foldlM_laterFields (fields done : List (Option String × Json)) (stack : List Frame)
    (whole : Option Json) :
    (laterFields fields).foldlM step ⟨.object done :: stack, .separator, whole⟩ =
      complete ⟨stack, .separator, whole⟩ (.object (done.reverse ++ fields)) := by
  match fields with
  | [] =>
    rw [laterFields, List.append_nil]
    exact bind_pure _
  | field :: fields =>
    have first := foldlM_fieldTokens field done stack whole (.inl rfl)
    have rest := foldlM_laterFields fields (field :: done) stack whole
    rw [List.reverse_cons, List.append_assoc] at rest
    rw [laterFields, List.foldlM_cons]
    show (fieldTokens field ++ laterFields fields).foldlM step
      ⟨.object done :: stack, .key, whole⟩ = _
    rw [List.foldlM_append, first]
    exact rest

end

end Assembly

section Touching

theorem Token.mayTouch_of_closed_left {token next : Token} (closed : token.isOpen = false) :
    token.MayTouch next := fun both => by simp [closed] at both

theorem Token.mayTouch_of_closed_right {token next : Token} (closed : next.isOpen = false) :
    token.MayTouch next := fun both => by simp [closed] at both

/-- What follows a value is no word and no number. -/
theorem closed_of_mem_head?_laterItems {items : List Json} :
    ∀ token ∈ (laterItems items).head?, token.isOpen = false := by
  cases items <;> simp [laterItems, Token.isOpen]

theorem closed_of_mem_head?_laterFields {fields : List (Option String × Json)} :
    ∀ token ∈ (laterFields fields).head?, token.isOpen = false := by
  cases fields <;> simp [laterFields, Token.isOpen]

theorem isChain_append_of_closed {first rest : List Token}
    (chain : first.IsChain Token.MayTouch) (chain' : rest.IsChain Token.MayTouch)
    (closed : ∀ token ∈ rest.head?, token.isOpen = false) :
    (first ++ rest).IsChain Token.MayTouch :=
  List.isChain_append.mpr ⟨chain, chain', fun _ _ next isNext =>
    Token.mayTouch_of_closed_right (closed next isNext)⟩

theorem isChain_cons_of_closed {token : Token} {rest : List Token} (closed : token.isOpen = false)
    (chain : rest.IsChain Token.MayTouch) : (token :: rest).IsChain Token.MayTouch :=
  List.isChain_cons.mpr ⟨fun _ _ => Token.mayTouch_of_closed_left closed, chain⟩

mutual

theorem isChain_tokens (value : Json) : value.tokens.IsChain Token.MayTouch := by
  match value with
  | .null | .bool _ | .number _ | .string _ => exact List.isChain_singleton _
  | .array [] | .object [] => exact isChain_cons_of_closed rfl (List.isChain_singleton _)
  | .array (item :: items) =>
    exact isChain_cons_of_closed rfl (isChain_append_of_closed (isChain_tokens item)
      (isChain_laterItems items) closed_of_mem_head?_laterItems)
  | .object (field :: fields) =>
    exact isChain_cons_of_closed rfl (isChain_append_of_closed (isChain_fieldTokens field)
      (isChain_laterFields fields) closed_of_mem_head?_laterFields)

theorem isChain_laterItems (items : List Json) : (laterItems items).IsChain Token.MayTouch := by
  match items with
  | [] => exact List.isChain_singleton _
  | item :: items =>
    exact isChain_cons_of_closed rfl (isChain_append_of_closed (isChain_tokens item)
      (isChain_laterItems items) closed_of_mem_head?_laterItems)

theorem isChain_fieldTokens (field : Option String × Json) :
    (fieldTokens field).IsChain Token.MayTouch := by
  match field with
  | (_, value) =>
    exact isChain_cons_of_closed rfl (isChain_cons_of_closed rfl (isChain_tokens value))

theorem isChain_laterFields (fields : List (Option String × Json)) :
    (laterFields fields).IsChain Token.MayTouch := by
  match fields with
  | [] => exact List.isChain_singleton _
  | field :: fields =>
    exact isChain_cons_of_closed rfl (isChain_append_of_closed (isChain_fieldTokens field)
      (isChain_laterFields fields) closed_of_mem_head?_laterFields)

end

end Touching

/-- Reading a text gives the value whose tokens are written there. -/
theorem parse?_of_written {value : Json} {text : String}
    (written : Written value.tokens text.toList) : parse? text = some value := by
  have read := tokens?_of_written written (isChain_tokens value)
  have assembled : value.tokens.foldlM Assembly.step {} = Assembly.complete {} value :=
    Assembly.foldlM_tokens value {} (.inl rfl)
  simp only [parse?, read, Option.bind_eq_bind, Option.bind_some, assembled]
  rfl

end DispatchCache.Json
