import WorkspaceVolumes.Proofs.Printing
import WorkspaceVolumes.Yaml.Node

/-!
# Nodes of printed values

The tokens of a value are built into a node, which has the shape of the value and neither
anchors nor tags nor aliases.

**Tokens that follow.**  A builder takes the tokens of one node from a longer list and leaves
the others (`Node.Builds`).  A sequence at the indentation of its key has no token at its end.
There it matters that what comes next is no further element.

**Fuel.**  A builder spends one unit of fuel on each node and each element.  Twice the number
of tokens is enough for what they stand for, and a document is given more.

## Main definitions

* `nodeOf`: the node that a value is read as.
* `Node.Builds`: what a step in building a tree makes of some tokens.
* `Node.BuiltBack`: a value whose tokens are built into its node.

## Main statements

* `Node.builtBack_of_textual`: whatever the library writes is built back.
* `Node.ofText_print`: the text of a mapping is read as its node.
-/

namespace WorkspaceVolumes.Yaml

mutual

/-- The node that a value is read as. -/
def nodeOf : Data → Node
  | .text value => .scalar none none (.ofText false value.toList) value.toList
  | .list items => .list none none (nodesOfItems items)
  | .record entries => .record none none (nodesOfEntries entries)
  | .null => .scalar none none .plain (plainText .null)
  | .flag value => .scalar none none .plain (plainText (.flag value))
  | .whole value => .scalar none none .plain (plainText (.whole value))
  | .decimal numeral => .scalar none none .plain (plainText (.decimal numeral))

/-- The nodes that the elements of a sequence are read as. -/
def nodesOfItems : List Data → List Node
  | [] => []
  | item :: rest => nodeOf item :: nodesOfItems rest

/-- The nodes that an entry of a mapping is read as. -/
def nodesOfEntry : Data × Data → Node × Node
  | (key, value) => (nodeOf key, nodeOf value)

/-- The nodes that the entries of a mapping are read as. -/
def nodesOfEntries : List (Data × Data) → List (Node × Node)
  | [] => []
  | entry :: rest => nodesOfEntry entry :: nodesOfEntries rest

end

namespace Node

open Builder

/-- That a step in building a tree passes some tokens with a result. -/
def Builds {α : Type} (builder : Builder α) (tokens rest : List Token) (result : α) : Prop :=
  ∀ anchors, builder.run ⟨tokens, anchors⟩ = .ok (result, ⟨rest, anchors⟩)

namespace Builds

variable {α β : Type} {tokens middle rest : List Token}

theorem pure (result : α) (tokens : List Token) : Builds (pure result) tokens tokens result :=
  fun _ => rfl

theorem bind {builder : Builder α} {next : α → Builder β} {result : α} {last : β}
    (first : Builds builder tokens middle result) (second : Builds (next result) middle rest last) :
    Builds (builder >>= next) tokens rest last := by
  intro anchors
  rw [StateT.run_bind, first]
  exact second anchors

theorem map {builder : Builder α} {result : α} (first : Builds builder tokens rest result)
    (f : α → β) : Builds (builder >>= fun a => Pure.pure (f a)) tokens rest (f result) :=
  first.bind (.pure _ _)

theorem peek (tokens : List Token) : Builds peek tokens tokens tokens.head? := fun _ => rfl

theorem skip (token : Token) (tokens : List Token) : Builds skip (token :: tokens) tokens () :=
  fun _ => rfl

theorem comesNext (test : Token → Bool) (tokens : List Token) :
    Builds (comesNext test) tokens tokens (tokens.head?.all test) := fun _ => rfl

end Builds

section

variable {handles : TagHandles} {fuel : Nat} {indentless : Bool} {rest : List Token}

theorem builds_scalar (style : ScalarStyle) (text : List Char) (rest : List Token) :
    Builds (read handles (fuel + 1) true indentless) (.scalar style text :: rest) rest
      (.scalar none none style text) := by
  cases indentless <;> exact fun _ => rfl

theorem builds_emptyList (rest : List Token) :
    Builds (read handles (fuel + 2) true indentless)
      (.flowSequenceStart :: .flowSequenceEnd :: rest) rest (.list none none []) := by
  cases indentless <;> exact fun _ => rfl

theorem builds_emptyRecord (rest : List Token) :
    Builds (read handles (fuel + 2) true indentless) (.flowMappingStart :: .flowMappingEnd :: rest)
      rest (.record none none []) := by
  cases indentless <;> exact fun _ => rfl

theorem builds_list {tokens : List Token} {items : List Node}
    (builds : Builds (readItems handles fuel) tokens rest items) :
    Builds (read handles (fuel + 1) true indentless) (.blockSequenceStart :: tokens) rest
      (.list none none items) := by
  have opens (anchors : List (List Char × Nat)) :
      (read handles (fuel + 1) true indentless).run ⟨.blockSequenceStart :: tokens, anchors⟩ =
        (readItems handles fuel >>= fun items => pure (.list none none items)).run
          ⟨tokens, anchors⟩ := by
    cases indentless <;> rfl
  exact fun anchors => (opens anchors).trans (builds.map _ anchors)

theorem builds_record {tokens : List Token} {entries : List (Node × Node)}
    (builds : Builds (readEntries handles fuel) tokens rest entries) :
    Builds (read handles (fuel + 1) true indentless) (.blockMappingStart :: tokens) rest
      (.record none none entries) := by
  have opens (anchors : List (List Char × Nat)) :
      (read handles (fuel + 1) true indentless).run ⟨.blockMappingStart :: tokens, anchors⟩ =
        (readEntries handles fuel >>= fun entries => pure (.record none none entries)).run
          ⟨tokens, anchors⟩ := by
    cases indentless <;> rfl
  exact fun anchors => (opens anchors).trans (builds.map _ anchors)

theorem builds_indentless {tokens : List Token} {items : List Node}
    (builds : Builds (readIndentless handles fuel) (.blockEntry :: tokens) rest items) :
    Builds (read handles (fuel + 1) true true) (.blockEntry :: tokens) rest
      (.list none none items) := by
  have opens (anchors : List (List Char × Nat)) :
      (read handles (fuel + 1) true true).run ⟨.blockEntry :: tokens, anchors⟩ =
        (readIndentless handles fuel >>= fun items => pure (.list none none items)).run
          ⟨.blockEntry :: tokens, anchors⟩ := rfl
  exact fun anchors => (opens anchors).trans (builds.map _ anchors)

/-- An element of a sequence is passed with its dash. -/
theorem builds_items_cons {tokens middle : List Token} {item : Node} {items : List Node}
    (starts : tokens.head?.all endsItem = false)
    (first : Builds (read handles fuel true false) tokens middle item)
    (more : Builds (readItems handles fuel) middle rest items) :
    Builds (readItems handles (fuel + 1)) (.blockEntry :: tokens) rest (item :: items) := by
  rw [readItems]
  refine (Builds.peek _).bind ((Builds.skip _ _).bind ((Builds.comesNext _ _).bind ?_))
  rw [starts]
  exact first.bind (more.map _)

theorem builds_items_nil (rest : List Token) :
    Builds (readItems handles (fuel + 1)) (.blockEnd :: rest) rest [] :=
  fun _ => rfl

/-- An element of a sequence at the indentation of its key is passed with its dash. -/
theorem builds_indentless_cons {tokens middle : List Token} {item : Node} {items : List Node}
    (starts : tokens.head?.all endsIndentlessItem = false)
    (first : Builds (read handles fuel true false) tokens middle item)
    (more : Builds (readIndentless handles fuel) middle rest items) :
    Builds (readIndentless handles (fuel + 1)) (.blockEntry :: tokens) rest (item :: items) := by
  rw [readIndentless]
  refine (Builds.peek _).bind ((Builds.skip _ _).bind ((Builds.comesNext _ _).bind ?_))
  rw [starts]
  exact first.bind (more.map _)

theorem builds_indentless_nil (ends : rest.head? ≠ some .blockEntry) :
    Builds (readIndentless handles (fuel + 1)) rest rest [] := by
  rw [readIndentless]
  refine (Builds.peek _).bind ?_
  split
  case h_1 isEntry => exact absurd isEntry ends
  case h_2 => exact .pure _ _

/-- An entry of a mapping is passed with its key and its value. -/
theorem builds_entries_cons {tokens middle behind : List Token} {key value : Node}
    {entries : List (Node × Node)} (starts : tokens.head?.all endsEntryPart = false)
    (first : Builds (read handles fuel true true) tokens middle key)
    (second : Builds (readValue handles fuel) middle behind value)
    (more : Builds (readEntries handles fuel) behind rest entries) :
    Builds (readEntries handles (fuel + 1)) (.key :: tokens) rest ((key, value) :: entries) := by
  rw [readEntries]
  refine (Builds.peek _).bind ((Builds.skip _ _).bind ((Builds.comesNext _ _).bind ?_))
  rw [starts]
  exact first.bind (second.bind (more.map _))

theorem builds_entries_nil (rest : List Token) :
    Builds (readEntries handles (fuel + 1)) (.blockEnd :: rest) rest [] :=
  fun _ => rfl

theorem builds_value {tokens : List Token} {value : Node}
    (starts : tokens.head?.all endsEntryPart = false)
    (builds : Builds (read handles fuel true true) tokens rest value) :
    Builds (readValue handles (fuel + 1)) (.value :: tokens) rest value := by
  rw [readValue]
  refine (Builds.peek _).bind ((Builds.skip _ _).bind ((Builds.comesNext _ _).bind ?_))
  rw [starts]
  exact builds

end

/-! ## What is built of a value -/

/-- Behind an indicator, a value starts with a token that ends nothing. -/
theorem exists_tokens_false (value : Data) :
    ∃ token more, tokens false value = token :: more ∧ endsIndentlessItem token = false := by
  cases value with
  | list items => cases items <;> exact ⟨_, _, rfl, rfl⟩
  | record entries => cases entries <;> exact ⟨_, _, rfl, rfl⟩
  | null | flag | whole | decimal | text => exact ⟨_, _, rfl, rfl⟩

/-- Behind a key, a value starts with a token that does not end it. -/
theorem exists_tokens (hanging : Bool) (value : Data) :
    ∃ token more, tokens hanging value = token :: more ∧ endsEntryPart token = false := by
  cases value with
  | list items => cases items <;> cases hanging <;> exact ⟨_, _, rfl, rfl⟩
  | record entries => cases entries <;> exact ⟨_, _, rfl, rfl⟩
  | null | flag | whole | decimal | text => exact ⟨_, _, rfl, rfl⟩

/-- That the tokens of a value are built into its node, wherever they stand.  A sequence without
tokens of its own has to stand behind a key, and before something that is no element of it. -/
def BuiltBack (value : Data) : Prop :=
  ∀ {hanging indentless : Bool} {fuel : Nat} {rest : List Token},
    (hanging = true → indentless = true ∧ rest.head? ≠ some .blockEntry) →
      2 * (tokens hanging value).length + 2 ≤ fuel →
        Builds (read [] fuel true indentless) (tokens hanging value ++ rest) rest (nodeOf value)

/-- What does not stand behind a key may stand before anything. -/
theorem BuiltBack.besides {value : Data} (built : BuiltBack value) {indentless : Bool} {fuel : Nat}
    {rest : List Token} (enough : 2 * (tokens false value).length + 2 ≤ fuel) :
    Builds (read [] fuel true indentless) (tokens false value ++ rest) rest (nodeOf value) :=
  built (absurd · Bool.false_ne_true) enough

/-- A unit of fuel is spent. -/
theorem exists_fuel {least fuel : Nat} (enough : least + 1 ≤ fuel) :
    ∃ left, fuel = left + 1 ∧ least ≤ left :=
  ⟨fuel - 1, by omega, by omega⟩

theorem builtBack_text (value : String) : BuiltBack (.text value) := by
  intro hanging indentless fuel rest _ enough
  obtain ⟨fuel, rfl, -⟩ := exists_fuel enough
  exact builds_scalar _ _ _

theorem builtBack_flag (value : Bool) : BuiltBack (.flag value) := by
  intro hanging indentless fuel rest _ enough
  obtain ⟨fuel, rfl, -⟩ := exists_fuel enough
  exact builds_scalar _ _ _

theorem builds_items {items : List Data} (each : ∀ item ∈ items, BuiltBack item) {fuel : Nat}
    (enough : 2 * (itemTokens items).length + 3 ≤ fuel) (rest : List Token) :
    Builds (readItems [] fuel) (itemTokens items ++ .blockEnd :: rest) rest
      (nodesOfItems items) := by
  induction items generalizing fuel with
  | nil =>
    obtain ⟨fuel, rfl, -⟩ := exists_fuel enough
    exact builds_items_nil rest
  | cons item items ih =>
    obtain ⟨fuel, rfl, -⟩ := exists_fuel enough
    obtain ⟨here, later⟩ := List.forall_mem_cons.1 each
    obtain ⟨token, more, isTokens, starts⟩ := exists_tokens_false item
    have endsNothing : (tokens false item ++ (itemTokens items ++ .blockEnd :: rest)).head?.all
        endsItem = false := by
      rw [isTokens]
      exact (Bool.or_eq_false_iff.1 starts).1
    rw [itemTokens, List.length_cons, List.length_append] at enough
    rw [itemTokens, List.cons_append, List.append_assoc]
    exact builds_items_cons endsNothing (here.besides (by omega)) (ih later (by omega))

theorem builds_indentlessItems {items : List Data} (each : ∀ item ∈ items, BuiltBack item)
    {fuel : Nat} (enough : 2 * (itemTokens items).length + 1 ≤ fuel) {rest : List Token}
    (ends : rest.head? ≠ some .blockEntry) :
    Builds (readIndentless [] fuel) (itemTokens items ++ rest) rest (nodesOfItems items) := by
  induction items generalizing fuel with
  | nil =>
    obtain ⟨fuel, rfl, -⟩ := exists_fuel enough
    exact builds_indentless_nil ends
  | cons item items ih =>
    obtain ⟨fuel, rfl, -⟩ := exists_fuel enough
    obtain ⟨here, later⟩ := List.forall_mem_cons.1 each
    obtain ⟨token, more, isTokens, starts⟩ := exists_tokens_false item
    have endsNothing : (tokens false item ++ (itemTokens items ++ rest)).head?.all
        endsIndentlessItem = false := by
      rw [isTokens]
      exact starts
    rw [itemTokens, List.length_cons, List.length_append] at enough
    rw [itemTokens, List.cons_append, List.append_assoc]
    exact builds_indentless_cons endsNothing (here.besides (by omega)) (ih later (by omega))

/-- Where a sequence stands behind a key, no further element of it follows. -/
theorem head?_recordTokens_ne (entries : List (Data × Data)) (rest : List Token) :
    (recordTokens entries ++ .blockEnd :: rest).head? ≠ some .blockEntry := by
  match entries with
  | [] => simp [recordTokens]
  | (key, value) :: entries => simp [recordTokens, entryTokens]

theorem builds_entries {entries : List (Data × Data)}
    (each : ∀ entry ∈ entries, BuiltBack entry.1 ∧ BuiltBack entry.2) {fuel : Nat}
    (enough : 2 * (recordTokens entries).length + 3 ≤ fuel) (rest : List Token) :
    Builds (readEntries [] fuel) (recordTokens entries ++ .blockEnd :: rest) rest
      (nodesOfEntries entries) := by
  induction entries generalizing fuel with
  | nil =>
    obtain ⟨fuel, rfl, -⟩ := exists_fuel enough
    exact builds_entries_nil rest
  | cons entry entries ih =>
    obtain ⟨key, value⟩ := entry
    obtain ⟨fuel, rfl, left⟩ := exists_fuel enough
    obtain ⟨fuel, rfl, -⟩ := exists_fuel left
    obtain ⟨⟨keyBuilt, valueBuilt⟩, later⟩ := List.forall_mem_cons.1 each
    obtain ⟨keyToken, keyMore, isKey, keyStarts⟩ := exists_tokens false key
    obtain ⟨token, more, isValue, starts⟩ := exists_tokens (implicitKey? key).isSome value
    have behind := head?_recordTokens_ne entries rest
    have lengths : (recordTokens ((key, value) :: entries)).length =
        (tokens false key).length + (tokens (implicitKey? key).isSome value).length +
          (recordTokens entries).length + 2 := by
      simp only [recordTokens, entryTokens, List.length_append, List.length_cons]
      omega
    have tokens_eq : recordTokens ((key, value) :: entries) ++ .blockEnd :: rest =
        .key :: (tokens false key ++ .value :: (tokens (implicitKey? key).isSome value ++
          (recordTokens entries ++ .blockEnd :: rest))) := by
      simp only [recordTokens, entryTokens, List.cons_append, List.append_assoc]
    rw [lengths] at enough
    rw [tokens_eq]
    dsimp only at keyBuilt valueBuilt
    refine builds_entries_cons ?_ (keyBuilt.besides (by omega))
      (builds_value ?_ (valueBuilt (fun _ => ⟨rfl, behind⟩) (by omega))) (ih later (by omega))
    · rw [isKey]
      exact keyStarts
    · rw [isValue]
      exact starts

theorem builtBack_list {items : List Data} (each : ∀ item ∈ items, BuiltBack item) :
    BuiltBack (.list items) := by
  intro hanging indentless fuel rest behindKey enough
  cases items with
  | nil =>
    obtain ⟨fuel, rfl, left⟩ := exists_fuel enough
    obtain ⟨fuel, rfl, -⟩ := exists_fuel left
    exact builds_emptyList rest
  | cons item items =>
    obtain ⟨fuel, rfl, -⟩ := exists_fuel enough
    cases hanging with
    | true =>
      obtain ⟨rfl, ends⟩ := behindKey rfl
      change 2 * (itemTokens (item :: items)).length + 2 ≤ fuel + 1 at enough
      exact builds_indentless (builds_indentlessItems each (by omega) ends)
    | false =>
      have tokens_eq : tokens false (.list (item :: items)) =
          .blockSequenceStart :: (itemTokens (item :: items) ++ [.blockEnd]) := rfl
      rw [tokens_eq, List.length_cons, List.length_append] at enough
      rw [tokens_eq, List.cons_append, List.append_assoc]
      exact builds_list (builds_items each (by simp at enough; omega) rest)

theorem builtBack_record {entries : List (Data × Data)}
    (each : ∀ entry ∈ entries, BuiltBack entry.1 ∧ BuiltBack entry.2) :
    BuiltBack (.record entries) := by
  intro hanging indentless fuel rest _ enough
  cases entries with
  | nil =>
    obtain ⟨fuel, rfl, left⟩ := exists_fuel enough
    obtain ⟨fuel, rfl, -⟩ := exists_fuel left
    exact builds_emptyRecord rest
  | cons entry entries =>
    obtain ⟨fuel, rfl, -⟩ := exists_fuel enough
    have tokens_eq : tokens hanging (.record (entry :: entries)) =
        .blockMappingStart :: (recordTokens (entry :: entries) ++ [.blockEnd]) := rfl
    rw [tokens_eq, List.length_cons, List.length_append] at enough
    rw [tokens_eq, List.cons_append, List.append_assoc]
    exact builds_record (builds_entries each (by simp at enough; omega) rest)

/-- **The tokens of whatever the library writes are built into its node.** -/
theorem builtBack_of_textual {depth : Nat} {value : Data} (textual : Textual depth value) :
    BuiltBack value := by
  induction textual with
  | text value => exact builtBack_text value
  | flag value => exact builtBack_flag value
  | list _ ih => exact builtBack_list ih
  | object _ ih =>
    refine builtBack_record fun entry member => ?_
    obtain ⟨field, inFields, rfl⟩ := List.mem_map.1 member
    exact ⟨builtBack_text field.1, ih field inFields⟩

/-- **A printed mapping is read as its node**, as the only document of its text. -/
theorem ofText_print {depth : Nat} {fields : List (String × Data)} (nonempty : fields ≠ [])
    (each : ∀ field ∈ fields, Textual depth field.2) :
    ofText (print (.object fields)) = .ok (nodeOf (.object fields)) := by
  obtain ⟨field, more, rfl⟩ := List.exists_cons_of_ne_nil nonempty
  let all := tokens false (.object (field :: more))
  have built : Builds (read [] (4 * all.length + 4) true false) (all ++ []) []
      (nodeOf (.object (field :: more))) :=
    BuiltBack.besides (builtBack_of_textual (.object each))
      (by omega : 2 * all.length + 2 ≤ 4 * all.length + 4)
  rw [List.append_nil] at built
  have first : ofTokensWith [] all = .ok (nodeOf (.object (field :: more)), []) := by
    rw [ofTokensWith, built]
    rfl
  -- A mapping in block style starts with a token of its own, which is no directive.
  have only : firstDocument all = ofTokensWith [] all := rfl
  have whole : ofTokens all = .ok (nodeOf (.object (field :: more))) := by
    rw [ofTokens, only, first]
    rfl
  rw [ofText, scan_print nonempty each]
  exact whole

end Node

end WorkspaceVolumes.Yaml
