import Mathlib.Data.List.Basic
import Mathlib.Data.List.Nodup
import WorkspaceVolumes.StringMap

/-!
# More about maps keyed by strings

Equations for what the development does to whole tables: change every value, add a list of
entries, remove a list of keys, keep some of the values.  All of them are stated by
look-up, because two tables with the same look-ups are equal.

## Main definitions

* `StringMap.mapWithKey`: every value changed by a function that is told its key.
* `StringMap.rekey`: every key changed.

## Main statements

* `StringMap.get?_ofList`: of several entries with one key the last counts.
* `StringMap.get?_foldl_insert`, `StringMap.get?_foldl_erase`: tables after many additions
  or removals.
* `StringMap.values_filter`: selecting values commutes with listing them.
* `StringMap.size_eq_add_of_keys`: how many keys a table has more than another.
-/

namespace WorkspaceVolumes

namespace StringMap

variable {α β : Type}

theorem eq_of_entries_eq {left right : StringMap α} (same : left.entries = right.entries) :
    left = right := by
  cases left
  cases right
  cases same
  rfl

theorem eq_empty_of_isEmpty {map : StringMap α} (none : map.isEmpty) : map = .empty :=
  eq_of_entries_eq (List.isEmpty_iff.1 none)

/-! ### Changing every value -/

/-- Changes every value by a function that is told its key. -/
def mapWithKey (change : String → α → β) (map : StringMap α) : StringMap β :=
  ⟨map.entries.map fun entry => (entry.1, change entry.1 entry.2),
    increasing_of_keys_eq map.increasing (by simp)⟩

theorem lookup_map (change : String → α → β) (key : String) (list : List (String × α)) :
    lookup key (list.map fun entry => (entry.1, change entry.1 entry.2)) =
      (lookup key list).map (change key) := by
  induction list with
  | nil => rfl
  | cons head rest ih =>
    obtain ⟨k, v⟩ := head
    rw [List.map_cons, lookup, lookup, ih]
    split
    case isTrue same => rw [same, Option.map_some]
    case isFalse => rfl

theorem get?_mapWithKey (change : String → α → β) (map : StringMap α) (key : String) :
    (map.mapWithKey change).get? key = (map.get? key).map (change key) :=
  lookup_map change key map.entries

/-- A change that leaves every value of the table as it is leaves the table as it is. -/
theorem mapWithKey_eq_self {change : String → α → α} {map : StringMap α}
    (same : ∀ key value, map.get? key = some value → change key value = value) :
    map.mapWithKey change = map := by
  refine ext_get? fun key => ?_
  rw [get?_mapWithKey]
  cases found : map.get? key with
  | none => rfl
  | some value => rw [Option.map_some, same key value found]

/-! ### Keys and values -/

theorem mem_values_iff {map : StringMap α} {value : α} :
    value ∈ map.values ↔ ∃ key, map.get? key = some value := by
  rw [values, List.mem_map]
  constructor
  · rintro ⟨⟨key, stored⟩, member, rfl⟩
    exact ⟨key, get?_eq_some_iff.2 member⟩
  · rintro ⟨key, found⟩
    exact ⟨(key, value), get?_eq_some_iff.1 found, rfl⟩

theorem mem_values_of_get? {map : StringMap α} {key : String} {value : α}
    (found : map.get? key = some value) : value ∈ map.values :=
  mem_values_iff.2 ⟨key, found⟩

theorem notMem_keys_iff {map : StringMap α} {key : String} :
    key ∉ map.keys ↔ map.get? key = none := by
  rw [mem_keys_iff, Option.not_isSome_iff_eq_none]

theorem keys_mapWithKey (change : String → α → β) (map : StringMap α) :
    (map.mapWithKey change).keys = map.keys := by
  rw [keys, keys, mapWithKey, List.map_map]
  rfl

/-- No key occurs twice. -/
theorem nodup_keys (map : StringMap α) : map.keys.Nodup := by
  have increasing : map.keys.Pairwise (· < ·) := List.pairwise_map.2 map.increasing
  exact increasing.imp fun {key other} (before : key < other) (same : key = other) =>
    String.lt_irrefl other (same ▸ before)

/-- A test of values can be made before or after the values are listed. -/
theorem values_filter (accept : α → Bool) (map : StringMap α) :
    (map.filter fun _ value => accept value).values = map.values.filter accept := by
  rw [values, values, filter, List.filter_map]
  rfl

/-- Selecting twice is selecting by both tests, in either order. -/
theorem filter_filter (accept also : String → α → Bool) (map : StringMap α) :
    (map.filter accept).filter also =
      map.filter fun key value => accept key value && also key value := by
  refine eq_of_entries_eq (List.filter_filter.trans ?_)
  exact List.filter_congr fun entry _ => Bool.and_comm ..

/-! ### Sizes -/

theorem size_eq_length_keys (map : StringMap α) : map.size = map.keys.length :=
  (List.length_map _).symm

theorem length_place_le (key : String) (value : α) (list : List (String × α)) :
    (place key value list).length ≤ list.length + 1 := by
  induction list with
  | nil => exact Nat.le_refl 1
  | cons head rest ih =>
    rw [place]
    split
    · exact Nat.le_refl _
    · split
      · exact Nat.le_succ _
      · exact Nat.succ_le_succ ih

/-- Storing a value adds at most one entry. -/
theorem size_insert_le (map : StringMap α) (key : String) (value : α) :
    (map.insert key value).size ≤ map.size + 1 :=
  length_place_le key value map.entries

theorem mem_keys_insert {map : StringMap α} {key other : String} {value : α} :
    other ∈ (map.insert key value).keys ↔ other = key ∨ other ∈ map.keys := by
  rw [mem_keys_iff, mem_keys_iff, get?_insert]
  by_cases same : key = other
  · simp [same]
  · simp [same, Ne.symm same]

/-- The order of two additions does not matter if the keys differ. -/
theorem insert_comm {key other : String} (different : key ≠ other) (map : StringMap α)
    (value otherValue : α) :
    (map.insert key value).insert other otherValue =
      (map.insert other otherValue).insert key value := by
  refine ext_get? fun found => ?_
  rw [get?_insert, get?_insert, get?_insert, get?_insert]
  by_cases first : key = found
  · rw [if_neg fun second : other = found => different (first.trans second.symm), if_pos first,
      if_pos first]
  · rw [if_neg first, if_neg first]

/-- Storing the value that a key has already changes nothing. -/
theorem insert_eq_self {map : StringMap α} {key : String} {value : α}
    (found : map.get? key = some value) : map.insert key value = map := by
  refine ext_get? fun other => ?_
  rw [get?_insert]
  split
  case isTrue same => rw [← same, found]
  case isFalse => rfl

/-- Of two values stored under one key the later counts. -/
theorem insert_insert (map : StringMap α) (key : String) (value later : α) :
    (map.insert key value).insert key later = map.insert key later := by
  refine ext_get? fun other => ?_
  rw [get?_insert, get?_insert, get?_insert]
  split
  case isTrue => rfl
  case isFalse => rfl

/-- What the entry of one key comes to, where the others come to nothing. -/
theorem flatMap_entries_of_key {parts : String × α → List β} {map : StringMap α} {key : String}
    (others : ∀ entry ∈ map.entries, entry.1 ≠ key → parts entry = []) :
    map.entries.flatMap parts =
      ((map.get? key).map fun value => parts (key, value)).getD [] := by
  obtain ⟨entries, increasing⟩ := map
  rw [get?]
  induction entries with
  | nil => rfl
  | cons head rest ih =>
    obtain ⟨first, value⟩ := head
    have ⟨above, tail⟩ := List.pairwise_cons.1 increasing
    have behind : ∀ entry ∈ rest, entry.1 ≠ key → parts entry = [] :=
      fun entry member => others entry (List.mem_cons_of_mem _ member)
    rw [List.flatMap_cons, lookup]
    split
    case isTrue same =>
      subst same
      have nothing : rest.flatMap parts = [] :=
        List.flatMap_eq_nil_iff.2 fun entry member =>
          behind entry member fun equal => String.lt_irrefl first (equal ▸ above entry member)
      rw [nothing, List.append_nil]
      rfl
    case isFalse different =>
      rw [others _ List.mem_cons_self different, List.nil_append]
      exact ih tail behind

/-- A table that has all keys of another has as many entries more as it has keys more. -/
theorem size_eq_add_of_keys {earlier : StringMap α} {later : StringMap β}
    (kept : ∀ key ∈ earlier.keys, key ∈ later.keys) :
    later.size = earlier.size + (later.keys.filter (· ∉ earlier.keys)).length := by
  have shared : (later.keys.filter (· ∈ earlier.keys)).Perm earlier.keys := by
    refine (List.perm_ext_iff_of_nodup (later.nodup_keys.filter _) earlier.nodup_keys).2
      fun key => ?_
    rw [List.mem_filter, decide_eq_true_iff, and_iff_right_of_imp (kept key)]
  rw [size_eq_length_keys, size_eq_length_keys, ← shared.length_eq,
    List.length_eq_length_filter_add (· ∈ earlier.keys)]
  simp

/-! ### Many additions, many removals -/

/-- After a list of entries has been added, the last of them with a key counts for the
key, and where none has it, the table from before. -/
theorem get?_foldl_insert (list : List (String × α)) (map : StringMap α) (key : String) :
    (list.foldl (fun map entry => map.insert entry.1 entry.2) map).get? key =
      ((list.filter (·.1 = key)).getLast?.map Prod.snd).or (map.get? key) := by
  induction list generalizing map with
  | nil => rfl
  | cons head rest ih =>
    rw [List.foldl_cons, ih, get?_insert]
    by_cases same : head.1 = key
    · rw [if_pos same, List.filter_cons_of_pos (by simpa using same), List.getLast?_cons]
      cases (rest.filter (·.1 = key)).getLast? <;> rfl
    · rw [if_neg same, List.filter_cons_of_neg (by simpa using same)]

/-- Of several entries with one key the last counts. -/
theorem get?_ofList (list : List (String × α)) (key : String) :
    (ofList list).get? key = (list.filter (·.1 = key)).getLast?.map Prod.snd := by
  rw [ofList, get?_foldl_insert, get?_empty, Option.or_none]

/-- The one entry of a table with a key is the last of them. -/
theorem getLast?_filter_entries (map : StringMap α) (key : String) :
    (map.entries.filter (·.1 = key)).getLast?.map Prod.snd = map.get? key := by
  obtain ⟨entries, increasing⟩ := map
  rw [get?]
  induction entries with
  | nil => rfl
  | cons head rest ih =>
    have ⟨above, tail⟩ := List.pairwise_cons.1 increasing
    rw [lookup]
    split
    case isTrue same =>
      have alone : rest.filter (·.1 = key) = [] :=
        List.filter_eq_nil_iff.2 fun entry member equal =>
          String.lt_irrefl _ (same.trans (of_decide_eq_true equal).symm ▸ above entry member)
      rw [List.filter_cons_of_pos (by simpa using same), alone]
      rfl
    case isFalse different =>
      rw [List.filter_cons_of_neg (by simpa using different)]
      exact ih tail

/-- A table is made again of its entries. -/
theorem ofList_entries (map : StringMap α) : ofList map.entries = map :=
  ext_get? fun key => by rw [get?_ofList, getLast?_filter_entries]

/-- After all entries of a table have been added to another, the first counts where it has
the key. -/
theorem get?_foldl_insert_entries (added map : StringMap α) (key : String) :
    (added.entries.foldl (fun map entry => map.insert entry.1 entry.2) map).get? key =
      (added.get? key).or (map.get? key) := by
  rw [get?_foldl_insert, getLast?_filter_entries]

/-- Adding entries that a table has already changes nothing. -/
theorem foldl_insert_eq_self {list : List (String × α)} {map : StringMap α}
    (present : ∀ entry ∈ list, map.get? entry.1 = some entry.2) :
    list.foldl (fun map entry => map.insert entry.1 entry.2) map = map := by
  induction list with
  | nil => rfl
  | cons head rest ih =>
    rw [List.foldl_cons, insert_eq_self (present head List.mem_cons_self)]
    exact ih fun entry member => present entry (List.mem_cons_of_mem head member)

/-- A table replaces another that has the same keys. -/
theorem foldl_insert_entries_of_keys {added map : StringMap α} (same : added.keys = map.keys) :
    added.entries.foldl (fun map entry => map.insert entry.1 entry.2) map = added := by
  refine ext_get? fun key => ?_
  rw [get?_foldl_insert_entries]
  cases found : added.get? key with
  | some value => rfl
  | none =>
    have absent : key ∉ map.keys := by
      rw [← same]
      exact notMem_keys_iff.2 found
    rw [notMem_keys_iff.1 absent]
    rfl

/-- After some keys have been removed, the others have their values. -/
theorem get?_foldl_erase (doomed : List String) (map : StringMap α) (key : String) :
    (doomed.foldl erase map).get? key = if key ∈ doomed then none else map.get? key := by
  induction doomed generalizing map with
  | nil => rfl
  | cons head rest ih =>
    rw [List.foldl_cons, ih, get?_erase]
    by_cases last : key ∈ rest
    · rw [if_pos last, if_pos (List.mem_cons_of_mem _ last)]
    · rw [if_neg last]
      by_cases same : head = key
      · rw [if_pos same, if_pos (same ▸ List.mem_cons_self)]
      · have kept : key ∉ head :: rest := by simp [last, Ne.symm same]
        rw [if_neg same, if_neg kept]

/-! ### Changing every key -/

/-- Puts every value under another key; of several values that come under one key the last
counts. -/
def rekey (change : String → String) (map : StringMap α) : StringMap α :=
  ofList (map.entries.map fun entry => (change entry.1, entry.2))

section

variable {change : String → String} (injective : Function.Injective change)

include injective

theorem get?_rekey (map : StringMap α) (key : String) :
    (map.rekey change).get? (change key) = map.get? key := by
  rw [rekey, get?_ofList, List.filter_map, List.getLast?_map, Option.map_map,
    ← getLast?_filter_entries]
  have same : map.entries.filter ((fun entry => decide (entry.1 = change key)) ∘
      fun entry => (change entry.1, entry.2)) = map.entries.filter (·.1 = key) :=
    List.filter_congr fun entry _ => decide_eq_decide.2 injective.eq_iff
  rw [same]
  rfl

theorem keys_rekey (map : StringMap α) : (map.rekey change).keys.Perm (map.keys.map change) := by
  refine (List.perm_ext_iff_of_nodup (nodup_keys _) (map.nodup_keys.map injective)).2
    fun key => ?_
  constructor
  · intro member
    rw [mem_keys_iff, rekey, get?_ofList, Option.isSome_map] at member
    obtain ⟨entry, last⟩ := Option.isSome_iff_exists.1 member
    obtain ⟨stored, same⟩ := List.mem_filter.1 (List.mem_of_getLast? last)
    obtain ⟨first, there, rfl⟩ := List.mem_map.1 stored
    exact List.mem_map.2 ⟨first.1, List.mem_map_of_mem there, of_decide_eq_true same⟩
  · intro member
    obtain ⟨first, there, rfl⟩ := List.mem_map.1 member
    rw [mem_keys_iff, get?_rekey injective]
    exact mem_keys_iff.1 there

theorem size_rekey (map : StringMap α) : (map.rekey change).size = map.size := by
  rw [size_eq_length_keys, (keys_rekey injective map).length_eq, List.length_map,
    ← size_eq_length_keys]

end

end StringMap

namespace StringSet

theorem mem_difference {set other : StringSet} {element : String} :
    element ∈ set.difference other ↔ element ∈ set.toList ∧ element ∉ other.toList := by
  have absent : (!other.contains element) = true ↔ element ∉ other.toList := by
    rw [Bool.not_eq_true', ← Bool.not_eq_true]
    exact not_congr StringMap.mem_keys_iff.symm
  rw [difference, List.mem_filter, absent]

/-- Two sets with the same elements are the same set. -/
theorem ext_mem {set other : StringSet}
    (same : ∀ element, element ∈ set.toList ↔ element ∈ other.toList) : set = other := by
  refine StringMap.ext_get? fun element => ?_
  have here := same element
  rw [toList, toList, StringMap.mem_keys_iff, StringMap.mem_keys_iff] at here
  revert here
  -- What is stored under an element says no more than that it is there.
  cases set.get? element <;> cases other.get? element <;> simp

/-- After a list of strings has been added, a set holds these and the ones from before. -/
theorem mem_toList_foldl_add {elements : List String} {set : StringSet} {element : String} :
    element ∈ (elements.foldl add set).toList ↔ element ∈ elements ∨ element ∈ set.toList := by
  induction elements generalizing set with
  | nil => simp
  | cons head rest ih =>
    rw [List.foldl_cons, ih, mem_toList_add, List.mem_cons, or_assoc, or_left_comm]

/-- A set is made again of its elements. -/
theorem ofStrings_toList (set : StringSet) : ofStrings set.toList = set :=
  ext_mem fun element => by
    rw [ofStrings, mem_toList_foldl_add]
    exact or_iff_left List.not_mem_nil

/-- Adding what a set holds already changes nothing. -/
theorem foldl_add_eq_self {elements : List String} {set : StringSet}
    (held : ∀ element ∈ elements, element ∈ set.toList) : elements.foldl add set = set := by
  induction elements with
  | nil => rfl
  | cons head rest ih =>
    have same : set.add head = set := by
      have member := StringMap.mem_keys_iff.1 (held head List.mem_cons_self)
      obtain ⟨stored, found⟩ := Option.isSome_iff_exists.1 member
      exact StringMap.insert_eq_self found
    rw [List.foldl_cons, same,
      ih fun element member => held element (List.mem_cons_of_mem _ member)]

end StringSet

end WorkspaceVolumes
