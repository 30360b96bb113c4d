import WorkspaceVolumes.Proofs.Decoding
import WorkspaceVolumes.Proofs.Parsing

/-!
# Documents through YAML

A document is read back from its text, whatever strings it holds.  The text is read as the node
of the document's encoding; what is left to show is that this node answers the questions of a
reading as the encoding itself does (`Yaml.presents`).

**Strings.**  Where a string is expected every scalar is one.  What backs a pod volume is read
for its own shape first, and there a plain scalar may be taken for a number, a boolean or
nothing at all.  The printer writes a string plain only where it would not be.

**Depth.**  A reading enters a limited number of levels.  The encoding of a document has eight.

## Main definitions

* `Yaml.Shows`: a place at which what is written of a value stands.

## Main statements

* `Yaml.presents`: such places present their values.
* `Yaml.readText_print`: a model type is read back from the text of its encoding.
* `Document.ofYaml_toYaml`: a document survives YAML.
-/

namespace WorkspaceVolumes

theorem Data.object_injective : Function.Injective Data.object := by
  intro fields others same
  rw [object, object, Data.record.injEq] at same
  refine List.map_injective_iff.2 (fun field other equal => ?_) same
  obtain ⟨sameKey, sameValue⟩ := Prod.mk.inj equal
  exact Prod.ext (Data.text.inj sameKey) sameValue

namespace Yaml

/-! ## Nodes of written values -/

theorem nodesOfItems_eq_map (items : List Data) : nodesOfItems items = items.map nodeOf := by
  induction items with
  | nil => rfl
  | cons item items ih => rw [nodesOfItems, ih, List.map_cons]

theorem nodesOfEntries_object (fields : List (String × Data)) :
    nodesOfEntries (fields.map fun field => (.text field.1, field.2)) =
      fields.map fun field => (nodeOf (.text field.1), nodeOf field.2) := by
  induction fields with
  | nil => rfl
  | cons field fields ih => rw [List.map_cons, nodesOfEntries, nodesOfEntry, ih, List.map_cons]

/-- What is written holds no aliases. -/
theorem follow_nodeOf (anchors : Anchors) (value : Data) :
    anchors.follow (nodeOf value) = pure (nodeOf value) := by
  cases value <;> rfl

/-- Entering a mapping uses up a level. -/
theorem Textual.exists_succ {depth : Nat} {fields : List (String × Data)}
    (textual : Textual depth (.object fields)) :
    ∃ inner, depth = inner + 1 ∧ ∀ field ∈ fields, Textual inner field.2 := by
  generalize isObject : Data.object fields = value at textual
  cases textual with
  | @object inner others each =>
    rw [Data.object_injective isObject]
    exact ⟨inner, rfl, each⟩
  | text | flag | list => cases isObject

/-! ## Values of their own shape -/

/-- A string that is written plain is taken for a string, and not for nothing. -/
theorem plain_ofText_eq {text : List Char} (isPlain : ScalarStyle.ofText false text = .plain) :
    Plain.ofText text = .text ∧ (text.isEmpty || isNullWord text) = false := by
  have noQuotes := (ScalarStyle.standsPlain isPlain).2
  rw [needsQuotes, Bool.or_eq_false_iff, decide_eq_false_iff_not, not_not] at noQuotes
  refine ⟨noQuotes.1, Bool.eq_false_iff.2 fun isNothing => ?_⟩
  have taken := noQuotes.1
  rw [Plain.ofText, if_pos isNothing] at taken
  cases taken

theorem scalarData_text (text : List Char) :
    scalarData none (.ofText false text) text = .ok (.text (String.ofList text)) := by
  dsimp only [scalarData]
  split
  case isTrue isPlain =>
    rw [(plain_ofText_eq isPlain).1]
    rfl
  case isFalse => rfl

theorem scalarData_flag (flag : Bool) :
    scalarData none .plain (plainText (.flag flag)) = .ok (.flag flag) := by
  cases flag <;> rfl

-- The reading follows an alias before it looks at how many levels are left, so its equations
-- hold by computation only where both are known.
theorem nodeData_scalar (anchors : Anchors) (depth : Nat) (style : ScalarStyle)
    (text : List Char) :
    nodeData anchors depth (.scalar none none style text) =
      liftM (scalarData none style text) := by
  funext followed
  delta nodeData
  cases depth <;> rfl

theorem nodeData_list (anchors : Anchors) (depth : Nat) (items : List Node) :
    nodeData anchors (depth + 1) (.list none none items) =
      (do return .list (← items.mapM (nodeData anchors depth))) := by
  delta nodeData
  rfl

theorem nodeData_record (anchors : Anchors) (depth : Nat) (entries : List (Node × Node)) :
    nodeData anchors (depth + 1) (.record none none entries) =
      (do return .record (← entries.mapM fun entry => do
        let key ← nodeData anchors depth entry.1
        return (key, ← nodeData anchors depth entry.2))) := by
  delta nodeData
  rfl

/-- Whatever the library writes has its own shape. -/
theorem nodeData_nodeOf (anchors : Anchors) {depth : Nat} {value : Data}
    (textual : Textual depth value) : nodeData anchors depth (nodeOf value) = pure value := by
  have ofText (depth : Nat) (text : String) :
      nodeData anchors depth (nodeOf (.text text)) = pure (.text text) := by
    rw [nodeOf, nodeData_scalar, scalarData_text, String.ofList_toList, Reading.liftM_ok]
  induction textual with
  | text value => exact ofText _ value
  | flag value => rw [nodeOf, nodeData_scalar, scalarData_flag, Reading.liftM_ok]
  | @list depth items each ih =>
    have reads : (nodesOfItems items).mapM (nodeData anchors depth) = pure items := by
      rw [nodesOfItems_eq_map]
      exact mapM_eq_pure (List.forall₂_map_left_iff.2 (List.forall₂_same.2 ih))
    rw [nodeOf, nodeData_list, reads, pure_bind]
  | @object depth fields each ih =>
    have reads : List.Forall₂ (fun (entry : Node × Node) (given : Data × Data) =>
        (do
          let key ← nodeData anchors depth entry.1
          return (key, ← nodeData anchors depth entry.2)) = (pure given : Reading (Data × Data)))
        (fields.map fun field => (nodeOf (.text field.1), nodeOf field.2))
        (fields.map fun field => (.text field.1, field.2)) := by
      rw [List.forall₂_map_left_iff, List.forall₂_map_right_iff]
      refine List.forall₂_same.2 fun field inFields => ?_
      rw [ofText, pure_bind, ih field inFields, pure_bind]
    rw [Data.object, nodeOf, nodeData_record, nodesOfEntries_object, mapM_eq_pure reads, pure_bind]

/-! ## Places of written values -/

/-- That what is written of a value stands at a place, with room for its levels. -/
structure Shows (place : Place) (value : Data) : Prop where
  node_eq : place.node = nodeOf value
  textual : Textual place.depth value

namespace Shows

variable {place : Place} {value : Data}

theorem follow_eq (shown : Shows place value) : place.follow = pure place := by
  rw [Place.follow, shown.node_eq, follow_nodeOf, pure_bind, ← shown.node_eq]

theorem text_eq {text : String} (shown : Shows place (.text text)) : place.text = pure text := by
  rw [Place.text, shown.follow_eq, pure_bind, shown.node_eq]
  exact congrArg pure String.ofList_toList

theorem enter_eq {inner : Nat} (room : place.depth = inner + 1) :
    place.enter = pure () := by
  rw [Place.enter, room, if_neg (Nat.succ_ne_zero inner)]

theorem inside_of {inner : Nat} (room : place.depth = inner + 1) (textual : Textual inner value) :
    Shows (place.inside (nodeOf value)) value where
  node_eq := rfl
  textual := by
    rw [Place.inside, room]
    exact textual

theorem items_eq {given : List Data} (shown : Shows place (.list given)) :
    place.items = pure (given.map fun item => place.inside (nodeOf item)) ∧
      ∀ item ∈ given, Shows (place.inside (nodeOf item)) item := by
  have textual := shown.textual
  generalize room : place.depth = depth at textual
  cases textual with | list each
  refine ⟨?_, fun item member => inside_of room (each item member)⟩
  rw [Place.items, shown.follow_eq, pure_bind, shown.node_eq, nodeOf]
  dsimp only
  rw [enter_eq room, pure_bind, nodesOfItems_eq_map, List.map_map]
  rfl

theorem entries_eq {given : List (String × Data)} (shown : Shows place (.object given)) :
    place.entries = pure (given.map fun field => (field.1, place.inside (nodeOf field.2))) ∧
      ∀ field ∈ given, Shows (place.inside (nodeOf field.2)) field.2 := by
  obtain ⟨inner, room, each⟩ := shown.textual.exists_succ
  refine ⟨?_, fun field member => inside_of room (each field member)⟩
  rw [Place.entries, shown.follow_eq, pure_bind, shown.node_eq, Data.object, nodeOf]
  dsimp only
  rw [enter_eq room, pure_bind, nodesOfEntries_object]
  refine mapM_eq_pure ?_
  rw [List.forall₂_map_left_iff, List.forall₂_map_right_iff]
  refine List.forall₂_same.2 fun field _ => ?_
  rw [(inside_of room (.text field.1)).text_eq, pure_bind]

theorem gives (field : String → Shape) {given : List (String × Data)}
    (shown : Shows place (.object given)) :
    Gives (fun _ => Shows) field
      (given.map fun field => (field.1, place.inside (nodeOf field.2))) given :=
  List.forall₂_map_left_iff.2
    (List.forall₂_same.2 fun field member => ⟨rfl, shown.entries_eq.2 field member⟩)

end Shows

theorem presents : Presents fun _ => Shows where
  text := Shows.text_eq
  flag := by
    intro place flag shown
    change place.flag = _
    rw [Place.flag, shown.follow_eq, pure_bind, shown.node_eq]
    cases flag <;> rfl
  count := by
    intro place count shown
    have textual := shown.textual
    generalize place.depth = depth at textual
    cases textual
  optional := by
    intro place text shown
    change place.optional = _
    rw [Place.optional, shown.follow_eq, pure_bind, shown.node_eq, nodeOf]
    cases style : ScalarStyle.ofText false text.toList with
    | plain =>
      dsimp only
      rw [if_neg (Bool.eq_false_iff.1 (plain_ofText_eq style).2)]
    | singleQuoted | doubleQuoted | literal | folded => rfl
  variant := by
    intro place text shown
    change place.variant = _
    rw [Place.variant, shown.follow_eq, pure_bind, shown.node_eq]
    exact congrArg pure String.ofList_toList
  items := by
    intro item place given shown
    refine ⟨_, shown.items_eq.1, ?_⟩
    exact List.forall₂_map_left_iff.2 (List.forall₂_same.2 shown.items_eq.2)
  table := by
    intro item place given shown
    exact ⟨_, shown.entries_eq.1, shown.gives _⟩
  record := by
    intro names field place given shown picked
    refine ⟨_, ?_, shown.gives field⟩
    change (do liftM (Fields.pick names (← place.entries))) = _
    rw [shown.entries_eq.1, pure_bind, (shown.gives field).pick picked, Reading.liftM_ok]
  mixture := by
    intro names field place given shown picked
    refine ⟨_, shown.entries_eq.1, ?_, ?_⟩
    · rw [(Fields.pick_eq_ok_iff.1 ((shown.gives field).pick picked)).1]
      exact shown.gives field
    · intro entry member
      obtain ⟨field, inGiven, rfl⟩ := List.mem_map.1 member
      exact ⟨_, nodeData_nodeOf _ (shown.entries_eq.2 field inGiven).textual⟩
  content := by
    intro shape place given shown
    refine ⟨given, ?_, rfl⟩
    change nodeData place.anchors place.depth place.node = _
    rw [shown.node_eq, nodeData_nodeOf _ shown.textual]

/-- What a reading makes of everything that shows a mapping, it makes of its text. -/
theorem readText_print {α : Type} {read : Place → Reading α} {result : α}
    {fields : List (String × Data)} (nonempty : fields ≠ [])
    (each : ∀ field ∈ fields, Textual (maxDepth - 1) field.2)
    (reads : ∀ place, Shows place (.object fields) → read place = pure result) :
    readText read (print (.object fields)) = .ok result := by
  have shown : Shows (Place.root (nodeOf (.object fields))) (.object fields) :=
    ⟨rfl, .object each⟩
  rw [readText, Node.ofText_print nonempty each]
  change (read (Place.root (nodeOf (.object fields)))).result = _
  rw [reads _ shown]
  rfl

/-! ## Encodings of model types -/

section

variable {α : Type} {depth : Nat} {encode : α → Data}

theorem textual_listData {items : List α} (each : ∀ item, Textual depth (encode item)) :
    Textual (depth + 1) (listData encode items) :=
  .list (List.forall_mem_map.2 fun item _ => each item)

theorem textual_table {map : StringMap α} (each : ∀ item, Textual depth (encode item)) :
    Textual (depth + 1) (map.toData encode) :=
  .object (List.forall_mem_map.2 fun entry _ => each entry.2)

theorem textual_fieldUnless {omitted : Bool} {name : String} {value : Data}
    (textual : Textual depth value) :
    ∀ field ∈ fieldUnless omitted name value, Textual depth field.2 := by
  cases omitted with
  | true => exact nofun
  | false => exact List.forall_mem_singleton.2 textual

theorem textual_saidField {name : String} {said : Option α}
    (each : ∀ item, Textual depth (encode item)) :
    ∀ field ∈ saidField name encode said, Textual depth field.2 :=
  List.forall_mem_map.2 fun item _ => each item

theorem textual_optionalField {name : String} {value : Option String} :
    ∀ field ∈ optionalField name value, Textual depth field.2 :=
  textual_saidField .text

/-- A mapping is textual if its first value and the mapping of the others are. -/
theorem textual_fields {name : String} {value : Data} {fields : List (String × Data)}
    (textual : Textual depth value) (rest : ∀ field ∈ fields, Textual depth field.2) :
    ∀ field ∈ (name, value) :: fields, Textual depth field.2 :=
  List.forall_mem_cons.2 ⟨textual, rest⟩

end

end Yaml

section

variable {depth : Nat}

open Yaml

theorem Metadata.textual (metadata : Metadata) : Textual (depth + 2) metadata.toData :=
  .object (List.forall_mem_append.2 ⟨textual_fields (.text _)
    (textual_fieldUnless (textual_table .text)), textual_fieldUnless (textual_table .text)⟩)

theorem VolumeMount.textual (mount : VolumeMount) : Textual (depth + 1) mount.toData :=
  .object (textual_fields (.text _) (textual_fields (.text _) textual_optionalField))

theorem Container.textual (container : Container) : Textual (depth + 3) container.toData :=
  .object (textual_fields (.text _)
    (textual_fieldUnless (textual_listData VolumeMount.textual)))

theorem VolumeSource.textual (source : VolumeSource) : Textual (depth + 1) source.toField.2 := by
  cases source with
  | emptyDir source => exact .object textual_optionalField
  | claim source => exact .object (textual_fields (.text _) (textual_fieldUnless (.flag _)))

theorem PodVolume.textual (volume : PodVolume) : Textual (depth + 2) volume.toData :=
  .object (textual_fields (.text _) (textual_fields volume.source.textual nofun))

theorem Pod.textual (pod : Pod) : Textual (depth + 6) pod.toData := by
  have spec : Textual (depth + 5) pod.specData :=
    .object (textual_fields (textual_listData Container.textual)
      (textual_fieldUnless (textual_listData PodVolume.textual)))
  exact .object (textual_fields pod.metadata.textual (textual_fields spec nofun))

theorem Claim.textual (claim : Claim) : Textual (depth + 3) claim.toData := by
  have spec : Textual (depth + 2) claim.specData :=
    .object (textual_fields (textual_listData fun mode => .text mode.text)
      (textual_fields (.text _) nofun))
  exact .object (textual_fields claim.metadata.textual (textual_fields spec nofun))

theorem Machine.textual (machine : Machine) : Textual (depth + 3) machine.toData := by
  have declaration (path : String) : Textual (depth + 1) (declarationData path) :=
    .object (textual_fields (.text path) nofun)
  exact .object (textual_fields (textual_table declaration) nofun)

end

/-- **A document survives YAML**: it is read back from its text, whatever strings it holds. -/
theorem Document.ofYaml_toYaml (document : Document) :
    ofYaml document.toYaml = .ok document := by
  have pods : Yaml.Textual (120 + 7) (document.pods.toData Pod.toData) :=
    Yaml.textual_table Pod.textual
  have machines : Yaml.Textual (123 + 4) (document.machines.toData Machine.toData) :=
    Yaml.textual_table Machine.textual
  have claims : Yaml.Textual (123 + 4) (document.claims.toData Claim.toData) :=
    Yaml.textual_table Claim.textual
  have subpaths : Yaml.Textual (126 + 1) (listData .text document.subpaths.toList) :=
    Yaml.textual_listData .text
  exact Yaml.readText_print nofun
    (Yaml.textual_fields pods (Yaml.textual_fields machines (Yaml.textual_fields claims
      (Yaml.textual_fieldUnless subpaths))))
    fun _ => read_of_shows Yaml.presents

end WorkspaceVolumes
