import Mathlib.Data.List.Forall2
import Mathlib.Logic.Relation
import WorkspaceVolumes.Data.Reading
import WorkspaceVolumes.Document.Codec
import WorkspaceVolumes.Proofs.StringMap

/-!
# Shapes of encoded values

The encodings of the model types are made of scalars, sequences, tables and records.  Only a
record has keys that are known beforehand, and it is only there that a key can be unknown.
A shape says which parts of an encoding are of which kind, and so what of a value counts:
all but the entries of records under unknown keys (`Shape.known`).

**One proof for all notations.**  A reading asks a value a few questions.  So what it reads
is settled by how the answers to these questions fit an encoding, and that can be said
without the notation (`Presents`).  Each model type is then proved to be read back once.

## Main definitions

* `Shape`, `Shape.known`: shapes, and what of a value counts.
* `Presents`: a way in which the values of a notation show self-describing ones.
* `Gives`: fields that have been found, and those that they show.

## Main statements

* `Presents.readList`, `Presents.readTable`, `Presents.readSet`, `Gives.required`,
  `Gives.withDefault`: what the building blocks of readings read.
* `Data.presents`: values that agree in what counts show each other.
-/

namespace WorkspaceVolumes

theorem forall₂_of_map_eq {α β γ : Type} {first : α → γ} {second : β → γ} {left : List α}
    {right : List β} (same : left.map first = right.map second) :
    List.Forall₂ (fun a b => first a = second b) left right := by
  have related : List.Forall₂ (· = ·) (left.map first) (right.map second) :=
    same ▸ List.forall₂_refl _
  rwa [List.forall₂_map_left_iff, List.forall₂_map_right_iff] at related

/-- A mapping whose keys are texts is an object. -/
theorem Data.exists_fields {entries : List (Data × Data)}
    (texts : ∀ entry ∈ entries, ∃ name, entry.1 = .text name) :
    ∃ fields, Data.record entries = .object fields := by
  induction entries with
  | nil => exact ⟨[], rfl⟩
  | cons entry rest ih =>
    obtain ⟨name, isText⟩ := texts entry List.mem_cons_self
    obtain ⟨fields, same⟩ := ih fun other member => texts other (List.mem_cons_of_mem _ member)
    refine ⟨(name, entry.2) :: fields, ?_⟩
    rw [object, Data.record.injEq] at same ⊢
    rw [same, List.map_cons, ← isText]

/-- The form of an encoded value. -/
inductive Shape
  /-- A scalar, or a name of an alternative. -/
  | scalar
  | list (item : Shape)
  /-- A mapping that is keyed by anything. -/
  | table (item : Shape)
  /-- A mapping that is keyed by the names of fields. -/
  | record (names : List String) (field : String → Shape)

namespace Shape

/-- What of an entry of a record counts: nothing under an unknown key, and else what counts
of its value. -/
def knownEntry (names : List String) (knownValue : String → Data → Data) :
    Data × Data → Option (Data × Data)
  | (.text name, value) =>
    if names.contains name then some (.text name, knownValue name value) else none
  | entry => some entry

/-- What of a value counts where one of some shape is expected: not what records hold under
unknown keys. -/
def known : Shape → Data → Data
  | .list item, .list items => .list (items.map item.known)
  | .table item, .record entries => .record (entries.map fun entry => (entry.1, item.known entry.2))
  | .record names field, .record entries =>
    .record (entries.filterMap (knownEntry names fun name => (field name).known))
  | _, value => value

@[simp] theorem known_scalar (value : Data) : scalar.known value = value := by
  cases value <;> rfl

theorem eq_of_known_scalar {value other : Data} (same : scalar.known value = scalar.known other) :
    value = other := by
  rwa [known_scalar, known_scalar] at same

variable {names : List String} {field : String → Shape}

theorem known_object (fields : List (String × Data)) :
    (record names field).known (.object fields) =
      .object ((fields.filter (names.contains ·.1)).map fun entry =>
        (entry.1, (field entry.1).known entry.2)) := by
  rw [Data.object, known, Data.object, Data.record.injEq, List.filterMap_map]
  induction fields with
  | nil => rfl
  | cons entry fields ih =>
    rw [List.filterMap_cons, ih, List.filter_cons, Function.comp_apply, knownEntry]
    cases names.contains entry.1 <;> rfl

theorem known_table_object (item : Shape) (fields : List (String × Data)) :
    (table item).known (.object fields) =
      .object (fields.map fun entry => (entry.1, item.known entry.2)) := by
  rw [Data.object, known, Data.object, List.map_map, List.map_map]
  rfl

/-- An entry under anything but a text counts as it stands. -/
theorem text_or_knownEntry_eq (names : List String) (knownValue : String → Data → Data)
    (entry : Data × Data) :
    (∃ name, entry.1 = .text name) ∨ knownEntry names knownValue entry = some entry := by
  obtain ⟨key, value⟩ := entry
  cases key with
  | text name => exact .inl ⟨name, rfl⟩
  | null | flag | whole | decimal | list | record => exact .inr rfl

/-- Where what counts of a record is keyed by texts, all of it is. -/
theorem exists_fields_of_known {value : Data} {given : List (String × Data)}
    (same : (record names field).known value = .object given) :
    ∃ fields, value = .object fields := by
  match value, same with
  | .record entries, same =>
    refine Data.exists_fields fun entry member => ?_
    rw [known, Data.object, Data.record.injEq] at same
    rcases text_or_knownEntry_eq names (fun name => (field name).known) entry with
      isText | counts
    · exact isText
    have inside := List.mem_filterMap.2 ⟨entry, member, counts⟩
    rw [same] at inside
    obtain ⟨field, -, isKey⟩ := List.mem_map.1 inside
    exact ⟨field.1, (congrArg Prod.fst isKey).symm⟩

theorem exists_fields_of_known_table {item : Shape} {value : Data} {given : List (String × Data)}
    (same : (table item).known value = .object given) : ∃ fields, value = .object fields := by
  match value, same with
  | .record entries, same =>
    refine Data.exists_fields fun entry member => ?_
    rw [known, Data.object, Data.record.injEq] at same
    have counts := List.mem_map_of_mem (f := fun entry => (entry.1, item.known entry.2)) member
    rw [same] at counts
    obtain ⟨field, -, isKey⟩ := List.mem_map.1 counts
    exact ⟨field.1, (congrArg Prod.fst isKey).symm⟩

/-- That a value comes about by the insertion of an entry under an unknown key, into a record
of another value or into a part of it. -/
inductive Inserts : Shape → Data → Data → Prop
  | here {names : List String} {field : String → Shape} {key : String} (unknown : key ∉ names)
      (value : Data) (before behind : List (String × Data)) :
      Inserts (.record names field) (.object (before ++ behind))
        (.object (before ++ (key, value) :: behind))
  | inField {names : List String} {field : String → Shape} {key : String} {value later : Data}
      (inside : Inserts (field key) value later) (before behind : List (String × Data)) :
      Inserts (.record names field) (.object (before ++ (key, value) :: behind))
        (.object (before ++ (key, later) :: behind))
  | inEntry {item : Shape} {value later : Data} (inside : Inserts item value later)
      (key : String) (before behind : List (String × Data)) :
      Inserts (.table item) (.object (before ++ (key, value) :: behind))
        (.object (before ++ (key, later) :: behind))
  | inItem {item : Shape} {value later : Data} (inside : Inserts item value later)
      (before behind : List Data) :
      Inserts (.list item) (.list (before ++ value :: behind)) (.list (before ++ later :: behind))

/-- What is inserted under unknown keys does not count. -/
theorem Inserts.known_eq {shape : Shape} {value later : Data}
    (inserts : shape.Inserts value later) : shape.known later = shape.known value := by
  induction inserts with
  | here unknown => simp [known_object, unknown]
  | inField _ before behind ih =>
    simp only [known_object, List.filter_append, List.filter_cons]
    split <;> simp [ih]
  | inEntry _ key before behind ih => simp [known_table_object, ih]
  | inItem _ before behind ih => simp [known, ih]

theorem known_eq_of_inserts {shape : Shape} {value later : Data}
    (inserts : Relation.ReflTransGen shape.Inserts value later) :
    shape.known later = shape.known value := by
  induction inserts with
  | refl => rfl
  | tail _ last ih => exact last.known_eq.trans ih

end Shape

/-! ## What a notation shows -/

section

variable {ν α : Type}

/-- Two entries with one key, the first of which shows the second by the shape of the key. -/
def ShowsEntry (shows : Shape → ν → Data → Prop) (field : String → Shape)
    (entry : String × ν) (given : String × Data) : Prop :=
  entry.1 = given.1 ∧ shows (field given.1) entry.2 given.2

/-- Fields that show others, one by one. -/
abbrev Gives (shows : Shape → ν → Data → Prop) (field : String → Shape) (fields : Fields ν)
    (given : Fields Data) : Prop :=
  List.Forall₂ (ShowsEntry shows field) fields given

/-- A way in which the values of a notation show self-describing ones: a value answers what
is asked of it as the one that it shows would, by values that show the parts of that one.
What a record shows are its fields; it may have further entries. -/
structure Presents [DataSource ν] (shows : Shape → ν → Data → Prop) : Prop where
  text {value : ν} {text : String} : shows .scalar value (.text text) →
    DataSource.text value = pure text
  flag {value : ν} {flag : Bool} : shows .scalar value (.flag flag) →
    DataSource.flag value = pure flag
  count {value : ν} {count : Nat} : shows .scalar value (.whole count) →
    DataSource.count value = pure count
  optional {value : ν} {text : String} : shows .scalar value (.text text) →
    DataSource.optional value = pure (some value)
  variant {value : ν} {text : String} : shows .scalar value (.text text) →
    DataSource.variant value = pure text
  items {item : Shape} {value : ν} {given : List Data} : shows (.list item) value (.list given) →
    ∃ items, DataSource.items value = pure items ∧ List.Forall₂ (shows item) items given
  table {item : Shape} {value : ν} {given : Fields Data} :
    shows (.table item) value (.object given) →
      ∃ entries, DataSource.entries value = pure entries ∧
        Gives shows (fun _ => item) entries given
  record {names : List String} {field : String → Shape} {value : ν} {given : Fields Data} :
    shows (.record names field) value (.object given) → Fields.pick names given = .ok given →
      ∃ fields, DataSource.record names value = pure fields ∧ Gives shows field fields given
  mixture {names : List String} {field : String → Shape} {value : ν} {given : Fields Data} :
    shows (.record names field) value (.object given) → Fields.pick names given = .ok given →
      ∃ entries, DataSource.entries value = pure entries ∧
        Gives shows field (entries.filter (names.contains ·.1)) given ∧
        ∀ entry ∈ entries, ∃ data, DataSource.content entry.2 = pure data
  content {shape : Shape} {value : ν} {given : Data} : shows shape value given →
    ∃ data, DataSource.content value = pure data ∧ shape.known data = shape.known given

/-! ## Fields -/

/-- A field that is written where something is said of it. -/
def saidField (name : String) (encode : α → Data) (said : Option α) : List (String × Data) :=
  said.toList.map fun value => (name, encode value)

namespace Fields

@[simp] theorem find?_nil (name : String) : find? ([] : Fields ν) name = none := rfl

@[simp] theorem find?_cons (entry : String × ν) (rest : Fields ν) (name : String) :
    find? (entry :: rest) name = if entry.1 = name then some entry.2 else find? rest name := rfl

@[simp] theorem find?_append (fields rest : Fields ν) (name : String) :
    find? (fields ++ rest) name = (find? fields name).or (find? rest name) := by
  induction fields with
  | nil => simp
  | cons entry fields ih =>
    rw [List.cons_append, find?_cons, ih, find?_cons]
    split <;> simp

@[simp] theorem find?_fieldUnless (omitted : Bool) (name other : String) (value : Data) :
    find? (fieldUnless omitted name value) other =
      if name = other then if omitted then none else some value else none := by
  cases omitted <;> simp [fieldUnless]

theorem pick_cons (names : List String) (entry : String × ν) (rest : List (String × ν)) :
    pick names (entry :: rest) = (pick names rest).bind fun fields =>
      if names.contains entry.1 then
        if fields.any (·.1 = entry.1) then .error (.repeated entry.1) else .ok (entry :: fields)
      else .ok fields := rfl

/-- What is picked are the entries with known names, if their names differ. -/
theorem pick_eq_ok_iff {names : List String} {entries : List (String × ν)} {fields : Fields ν} :
    pick names entries = .ok fields ↔
      entries.filter (names.contains ·.1) = fields ∧ (fields.map Prod.fst).Nodup := by
  induction entries generalizing fields with
  | nil =>
    simp only [pick, Except.ok.injEq, List.filter_nil]
    exact ⟨fun same => ⟨same, same ▸ List.nodup_nil⟩, And.left⟩
  | cons entry rest ih =>
    rw [pick_cons, List.filter_cons]
    cases picked : pick names rest with
    | error fault =>
      have clash : ¬ ((rest.filter (names.contains ·.1)).map Prod.fst).Nodup := fun differ => by
        rw [ih.2 ⟨rfl, differ⟩] at picked
        cases picked
      refine ⟨fun impossible => (by cases impossible), ?_⟩
      rintro ⟨rfl, differ⟩
      refine absurd ?_ clash
      split at differ
      case isTrue => exact (List.nodup_cons.1 differ).2
      case isFalse => exact differ
    | ok found =>
      obtain ⟨rfl, differ⟩ := ih.1 picked
      rw [Except.bind]
      split
      case isFalse =>
        rw [Except.ok.injEq]
        exact (and_iff_left_of_imp fun same => same ▸ differ).symm
      case isTrue =>
        have repeated : (rest.filter (names.contains ·.1)).any (·.1 = entry.1) = true ↔
            entry.1 ∈ (rest.filter (names.contains ·.1)).map Prod.fst := by
          simp only [List.any_eq_true, decide_eq_true_iff, List.mem_map]
        split
        case isTrue twice =>
          refine ⟨fun impossible => (by cases impossible), ?_⟩
          rintro ⟨rfl, differs⟩
          exact absurd (repeated.1 twice) (List.nodup_cons.1 differs).1
        case isFalse once =>
          rw [Except.ok.injEq]
          refine (and_iff_left_of_imp fun same => ?_).symm
          rw [← same, List.map_cons, List.nodup_cons]
          exact ⟨mt repeated.2 once, differ⟩

@[simp] theorem find?_saidField (name other : String) (encode : α → Data) (said : Option α) :
    find? (saidField name encode said) other = if name = other then said.map encode else none := by
  cases said <;> simp [saidField]

@[simp] theorem find?_optionalField (name other : String) (text : Option String) :
    find? (optionalField name text) other = if name = other then text.map .text else none :=
  find?_saidField name other .text text

end Fields

namespace Gives

variable {shows : Shape → ν → Data → Prop} {field : String → Shape} {fields : Fields ν}
  {given : Fields Data} {name : String}

theorem map_fst (gives : Gives shows field fields given) :
    fields.map Prod.fst = given.map Prod.fst := by
  induction gives with
  | nil => rfl
  | cons head _ ih => rw [List.map_cons, List.map_cons, head.1, ih]

/-- Of entries with known names and of those that they show, the same can be selected. -/
theorem select {names : List String} {entries : List (String × ν)}
    (gives : Gives shows field (entries.filter (names.contains ·.1)) given) (some : List String)
    (known : ∀ name ∈ some, name ∈ names) :
    Gives shows field (entries.filter (some.contains ·.1)) (given.filter (some.contains ·.1)) := by
  have selected : entries.filter (some.contains ·.1) =
      (entries.filter (names.contains ·.1)).filter (some.contains ·.1) := by
    rw [List.filter_filter]
    refine List.filter_congr fun entry _ => ?_
    simpa using known entry.1
  rw [selected]
  exact List.rel_filter (fun _ _ related => iff_of_eq (congrArg (some.contains · = true) related.1))
    gives

/-- What is picked depends on the names alone. -/
theorem pick (gives : Gives shows field fields given) {names : List String}
    (picked : Fields.pick names given = .ok given) : Fields.pick names fields = .ok fields := by
  obtain ⟨known, differ⟩ := Fields.pick_eq_ok_iff.1 picked
  refine Fields.pick_eq_ok_iff.2 ⟨List.filter_eq_self.2 fun entry member => ?_, ?_⟩
  · have among : entry.1 ∈ given.map Prod.fst := gives.map_fst ▸ List.mem_map_of_mem member
    obtain ⟨other, isGiven, same⟩ := List.mem_map.1 among
    exact same ▸ List.filter_eq_self.1 known other isGiven
  · rw [gives.map_fst]
    exact differ

theorem find? (gives : Gives shows field fields given) (name : String) :
    Option.Rel (shows (field name)) (fields.find? name) (given.find? name) := by
  induction gives with
  | nil => exact .none
  | cons head _ ih =>
    obtain ⟨same, shown⟩ := head
    rw [Fields.find?_cons, Fields.find?_cons, same]
    split
    case isTrue here => exact .some (here ▸ shown)
    case isFalse => exact ih

/-- A field that has to be there is read if it is given. -/
theorem required (gives : Gives shows field fields given) {data : Data}
    (here : given.find? name = some data) {read : ν → Reading α} {result : α}
    (reads : ∀ value, shows (field name) value data → read value = pure result) :
    fields.required name read = pure result := by
  have found := gives.find? name
  rw [here] at found
  rw [Fields.required]
  generalize fields.find? name = value at found
  cases found with
  | some shown => exact reads _ shown

/-- A field that has a default is read if it is given. -/
theorem present (gives : Gives shows field fields given) {data : Data}
    (here : given.find? name = some data) {default result : α} {read : ν → Reading α}
    (reads : ∀ value, shows (field name) value data → read value = pure result) :
    fields.withDefault name default read = pure result := by
  have found := gives.find? name
  rw [here] at found
  rw [Fields.withDefault]
  generalize fields.find? name = value at found
  cases found with
  | some shown => exact reads _ shown

/-- A field that has a default may be left out. -/
theorem absent (gives : Gives shows field fields given) (missing : given.find? name = none)
    (default : α) (read : ν → Reading α) :
    fields.withDefault name default read = pure default := by
  have found := gives.find? name
  rw [missing] at found
  rw [Fields.withDefault]
  generalize fields.find? name = value at found
  cases found
  rfl

/-- A field that is left out where it is the default is read. -/
theorem withDefault (gives : Gives shows field fields given) {omitted : Bool} {data : Data}
    (here : given.find? name = if omitted then none else some data) {default result : α}
    (same : omitted → default = result) {read : ν → Reading α}
    (reads : ∀ value, shows (field name) value data → read value = pure result) :
    fields.withDefault name default read = pure result := by
  cases omitted with
  | true => exact same rfl ▸ gives.absent here default read
  | false => exact gives.present here reads

end Gives

/-! ## Sequences, tables and options -/

theorem mapM_eq_pure {read : ν → Reading α} {values : List ν} {results : List α}
    (reads : List.Forall₂ (fun value result => read value = pure result) values results) :
    values.mapM read = pure results := by
  induction reads with
  | nil => rfl
  | cons head _ ih => rw [List.mapM_cons, head, pure_bind, ih, pure_bind]

namespace Presents

variable [DataSource ν] {shows : Shape → ν → Data → Prop} {item : Shape} {value : ν}
  {encode : α → Data} {read : ν → Reading α}

theorem readList (presents : Presents shows) {results : List α}
    (shown : shows (.list item) value (listData encode results))
    (reads : ∀ value result, shows item value (encode result) → read value = pure result) :
    readList read value = pure results := by
  obtain ⟨items, found, related⟩ := presents.items shown
  rw [WorkspaceVolumes.readList, found, pure_bind]
  rw [List.forall₂_map_right_iff] at related
  exact mapM_eq_pure (related.imp fun value result => reads value result)

theorem readTable (presents : Presents shows) {map : StringMap α}
    (shown : shows (.table item) value (map.toData encode))
    (reads : ∀ value result, shows item value (encode result) → read value = pure result) :
    readTable read value = pure map := by
  obtain ⟨entries, found, gives⟩ := presents.table shown
  rw [Gives, List.forall₂_map_right_iff] at gives
  have readEntries : entries.mapM (fun entry => do return (entry.1, ← read entry.2)) =
      (pure map.entries : Reading (List (String × α))) := by
    refine mapM_eq_pure (gives.imp fun entry result ⟨same, shown⟩ => ?_)
    rw [reads entry.2 result.2 shown, pure_bind, same]
  rw [WorkspaceVolumes.readTable, found, pure_bind, readEntries, pure_bind,
    StringMap.ofList_entries]

theorem readSet (presents : Presents shows) {set : StringSet}
    (shown : shows (.list .scalar) value (listData .text set.toList)) :
    readSet value = pure set := by
  have elements := presents.readList shown fun _ _ => presents.text
  rw [WorkspaceVolumes.readSet, elements, pure_bind, StringSet.ofStrings_toList]

theorem readOptionalText (presents : Presents shows) {text : String}
    (shown : shows .scalar value (.text text)) : readOptionalText value = pure (some text) := by
  rw [WorkspaceVolumes.readOptionalText, presents.optional shown, pure_bind]
  simp only [presents.text shown, pure_bind]

end Presents

/-- An optional text is read if it is given, and else there is none. -/
theorem Gives.optionalText [DataSource ν] {shows : Shape → ν → Data → Prop}
    {field : String → Shape} {fields : Fields ν} {given : Fields Data} {name : String}
    (gives : Gives shows field fields given) (presents : Presents shows) {text : Option String}
    (here : given.find? name = text.map .text) (isScalar : field name = .scalar) :
    fields.withDefault name none readOptionalText = pure text := by
  cases text with
  | none => exact gives.absent here none readOptionalText
  | some text =>
    exact gives.present here fun _ shown => presents.readOptionalText (isScalar ▸ shown)

end

/-! ## Self-describing values -/

namespace Data

theorem entries_object (fields : List (String × Data)) :
    DataSource.entries (Data.object fields) = pure fields := by
  refine mapM_eq_pure ?_
  rw [List.forall₂_map_left_iff]
  exact List.forall₂_same.2 fun _ _ => rfl

theorem namedEntries_object (names : List String) (fields : List (String × Data)) :
    namedEntries names (fields.map fun field => (.text field.1, field.2)) =
      .ok (fields.filter (names.contains ·.1)) := by
  induction fields with
  | nil => rfl
  | cons field rest ih =>
    rw [List.map_cons, namedEntries, ih, fieldOfKey, List.filter_cons]
    cases names.contains field.1 <;> rfl

theorem gives_of_object_eq {field : String → Shape} {fields given : List (String × Data)}
    (same : object (fields.map fun entry => (entry.1, (field entry.1).known entry.2)) =
      object (given.map fun entry => (entry.1, (field entry.1).known entry.2))) :
    Gives (fun shape value given => shape.known value = shape.known given) field fields given := by
  rw [object, object, Data.record.injEq, List.map_map, List.map_map] at same
  refine (forall₂_of_map_eq same).imp ?_
  rintro ⟨key, value⟩ ⟨other, otherValue⟩ equal
  obtain ⟨sameKey, sameValue⟩ := Prod.mk.inj equal
  obtain rfl := Data.text.inj sameKey
  exact ⟨rfl, sameValue⟩

/-- Records that agree in what counts have the same fields, which agree in what counts. -/
theorem gives_of_known {names : List String} {field : String → Shape}
    {fields given : List (String × Data)} (picked : Fields.pick names given = .ok given)
    (same : (Shape.record names field).known (.object fields) =
      (Shape.record names field).known (.object given)) :
    Gives (fun shape value given => shape.known value = shape.known given) field
      (fields.filter (names.contains ·.1)) given := by
  rw [Shape.known_object, Shape.known_object, (Fields.pick_eq_ok_iff.1 picked).1] at same
  exact gives_of_object_eq same

/-- **Values that agree in what counts show each other**: no reading asks for the rest. -/
theorem presents : Presents fun shape value given => shape.known value = shape.known given where
  text shown := by
    obtain rfl := Shape.eq_of_known_scalar shown
    rfl
  flag shown := by
    obtain rfl := Shape.eq_of_known_scalar shown
    rfl
  count shown := by
    obtain rfl := Shape.eq_of_known_scalar shown
    rfl
  optional shown := by
    obtain rfl := Shape.eq_of_known_scalar shown
    rfl
  variant shown := by
    obtain rfl := Shape.eq_of_known_scalar shown
    rfl
  items := by
    intro item value given shown
    match value, shown with
    | .list items, shown =>
      rw [Shape.known, Shape.known, Data.list.injEq] at shown
      exact ⟨items, rfl, forall₂_of_map_eq shown⟩
  table := by
    intro item value given shown
    obtain ⟨fields, rfl⟩ := Shape.exists_fields_of_known_table
      (shown.trans (Shape.known_table_object item given))
    rw [Shape.known_table_object, Shape.known_table_object] at shown
    exact ⟨fields, entries_object fields, gives_of_object_eq shown⟩
  record := by
    intro names field value given shown picked
    obtain ⟨fields, rfl⟩ := Shape.exists_fields_of_known (shown.trans (Shape.known_object given))
    have gives := gives_of_known picked shown
    refine ⟨_, ?_, gives⟩
    change liftM (recordFields names (.object fields)) = _
    rw [Data.object, recordFields, namedEntries_object]
    change liftM (Fields.pick names _) = _
    rw [gives.pick picked]
    rfl
  mixture := by
    intro names field value given shown picked
    obtain ⟨fields, rfl⟩ := Shape.exists_fields_of_known (shown.trans (Shape.known_object given))
    exact ⟨fields, entries_object fields, gives_of_known picked shown, fun _ _ => ⟨_, rfl⟩⟩
  content := fun shown => ⟨_, rfl, shown⟩

end Data

end WorkspaceVolumes
