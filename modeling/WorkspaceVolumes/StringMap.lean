/-!
# Maps keyed by strings

A workload document is made of tables keyed by name: pods, machines, claims, labels.  This
module holds the one table type used for all of them.

**Representation.**  A `StringMap` is its list of entries, strictly increasing in the key,
with the ordering carried by the type.  A table therefore has one representation: two
tables with the same look-ups are equal (`StringMap.ext_get?`), and equality of documents
is plain equality of values.

**Order.**  Keys are compared by code point, which is also the order of their UTF-8 bytes.
Every traversal runs in that order.

## Main definitions

* `StringMap`, with `get?`, `insert`, `erase`, `filter`, `keys`, `values`, `ofList`.
* `StringMap.sweep`, a traversal in key order that may change the values, threads a state
  and stops at the first failure.
* `StringSet`, a table of units.
-/

namespace WorkspaceVolumes

/-- A finite table from strings to values, kept as its entries in increasing key order. -/
structure StringMap (α : Type) where
  /-- The entries, one for each key. -/
  entries : List (String × α)
  /-- Keys increase strictly, so none occurs twice. -/
  increasing : entries.Pairwise fun a b => a.1 < b.1
  deriving DecidableEq

namespace StringMap

variable {α β σ ε : Type}

/-- The value that a list of entries holds for a key. -/
def lookup (key : String) : List (String × α) → Option α
  | [] => none
  | (k, v) :: rest => if k = key then some v else lookup key rest

/-- Puts an entry at its place in an increasing list, replacing the entry of the same
key. -/
def place (key : String) (value : α) : List (String × α) → List (String × α)
  | [] => [(key, value)]
  | (k, v) :: rest =>
    if key < k then (key, value) :: (k, v) :: rest
    else if key = k then (key, value) :: rest
    else (k, v) :: place key value rest

theorem mem_place {key : String} {value : α} {entry : String × α} {list : List (String × α)}
    (member : entry ∈ place key value list) : entry = (key, value) ∨ entry ∈ list := by
  induction list with
  | nil => simpa [place] using member
  | cons head rest ih =>
    obtain ⟨k, v⟩ := head
    rw [place] at member
    split at member
    · simpa using member
    · split at member
      · rcases List.mem_cons.1 member with h | h
        · exact .inl h
        · exact .inr (List.mem_cons_of_mem _ h)
      · rcases List.mem_cons.1 member with h | h
        · exact .inr (h ▸ List.mem_cons_self)
        · exact (ih h).imp id (List.mem_cons_of_mem _)

theorem increasing_place (key : String) (value : α) {list : List (String × α)}
    (sorted : list.Pairwise fun a b => a.1 < b.1) :
    (place key value list).Pairwise fun a b => a.1 < b.1 := by
  induction list with
  | nil => simp [place]
  | cons head rest ih =>
    obtain ⟨k, v⟩ := head
    have ⟨above, tail⟩ := List.pairwise_cons.1 sorted
    rw [place]
    split
    case isTrue before =>
      refine List.pairwise_cons.2 ⟨fun b hb => ?_, sorted⟩
      rcases List.mem_cons.1 hb with rfl | h
      · exact before
      · exact String.lt_trans before (above b h)
    case isFalse notBefore =>
      split
      case isTrue same => exact List.pairwise_cons.2 ⟨fun b hb => same ▸ above b hb, tail⟩
      case isFalse other =>
        refine List.pairwise_cons.2 ⟨fun b hb => ?_, ih tail⟩
        rcases mem_place hb with rfl | h
        · exact Std.lt_of_le_of_ne (String.not_lt.1 notBefore) (Ne.symm other)
        · exact above b h

/-- The table without entries. -/
def empty : StringMap α := ⟨[], .nil⟩

instance : Inhabited (StringMap α) := ⟨empty⟩

/-- The value stored under a key. -/
def get? (map : StringMap α) (key : String) : Option α := lookup key map.entries

/-- Whether a key has a value. -/
def contains (map : StringMap α) (key : String) : Bool := (map.get? key).isSome

/-- Stores a value under a key; an earlier value of that key is replaced. -/
def insert (map : StringMap α) (key : String) (value : α) : StringMap α :=
  ⟨place key value map.entries, increasing_place key value map.increasing⟩

/-- The entries that a test accepts. -/
def filter (accept : String → α → Bool) (map : StringMap α) : StringMap α :=
  ⟨map.entries.filter fun entry => accept entry.1 entry.2, map.increasing.filter _⟩

/-- Removes the entry of a key, if there is one. -/
def erase (map : StringMap α) (key : String) : StringMap α := map.filter fun k _ => k ≠ key

/-- The keys, in increasing order. -/
def keys (map : StringMap α) : List String := map.entries.map Prod.fst

/-- The values, in key order. -/
def values (map : StringMap α) : List α := map.entries.map Prod.snd

/-- The number of entries. -/
def size (map : StringMap α) : Nat := map.entries.length

/-- Whether there is no entry. -/
def isEmpty (map : StringMap α) : Bool := map.entries.isEmpty

/-- The table of a list of entries; of several entries with one key the last counts. -/
def ofList (entries : List (String × α)) : StringMap α :=
  entries.foldl (fun map entry => map.insert entry.1 entry.2) empty

/-! ### Traversal -/

/-- What one visit of a traversal leaves behind: whether it may go on, the visited value
as it is afterwards, and the state handed to the next visit. -/
structure Visit (ε α σ : Type) where
  outcome : Except ε Unit
  value : α
  state : σ

/-- Goes on after a visit, unless it failed. -/
def Visit.andThen (visit : Visit ε α σ) (next : α → σ → Visit ε α σ) : Visit ε α σ :=
  match visit.outcome with
  | .ok () => next visit.value visit.state
  | .error _ => visit

/-- Visits the values of a list of entries in order.  A failed visit keeps its own changes
and is the last: the entries behind it stay as they are. -/
def sweepEntries (visit : α → σ → Visit ε α σ) :
    List (String × α) → σ → Visit ε (List (String × α)) σ
  | [], state => ⟨.ok (), [], state⟩
  | (key, value) :: rest, state =>
    match visit value state with
    | ⟨.error fault, value, state⟩ => ⟨.error fault, (key, value) :: rest, state⟩
    | ⟨.ok (), value, state⟩ =>
      let later := sweepEntries visit rest state
      ⟨later.outcome, (key, value) :: later.value, later.state⟩

theorem keys_sweepEntries (visit : α → σ → Visit ε α σ) (list : List (String × α)) (state : σ) :
    (sweepEntries visit list state).value.map Prod.fst = list.map Prod.fst := by
  induction list generalizing state with
  | nil => rfl
  | cons head rest ih =>
    obtain ⟨key, value⟩ := head
    rw [sweepEntries]
    split <;> simp [ih]

theorem increasing_of_keys_eq {list : List (String × α)} {other : List (String × β)}
    (sorted : list.Pairwise fun a b => a.1 < b.1)
    (same : other.map Prod.fst = list.map Prod.fst) :
    other.Pairwise fun a b => a.1 < b.1 := by
  have keyed : (list.map Prod.fst).Pairwise (· < ·) := List.pairwise_map.2 sorted
  rw [← same] at keyed
  exact List.pairwise_map.1 keyed

/-- Visits the values of a table in key order; the keys stay as they are. -/
def sweep (visit : α → σ → Visit ε α σ) (map : StringMap α) (state : σ) :
    Visit ε (StringMap α) σ :=
  let swept := sweepEntries visit map.entries state
  { outcome := swept.outcome
    value := ⟨swept.value, increasing_of_keys_eq map.increasing (keys_sweepEntries visit _ state)⟩
    state := swept.state }

/-! ### Look-up equations -/

theorem lookup_place (key other : String) (value : α) (list : List (String × α))
    (sorted : list.Pairwise fun a b => a.1 < b.1) :
    lookup other (place key value list) = if key = other then some value else lookup other list := by
  induction list with
  | nil => rfl
  | cons head rest ih =>
    obtain ⟨k, v⟩ := head
    have ⟨above, tail⟩ := List.pairwise_cons.1 sorted
    rw [place]
    split
    · rfl
    · split
      case isTrue same => subst same; by_cases h : key = other <;> simp [lookup, h]
      case isFalse different =>
        rw [lookup, lookup, ih tail]
        by_cases h : k = other
        · subst h; simp [different]
        · simp [h]

@[simp] theorem get?_empty (key : String) : (empty : StringMap α).get? key = none := rfl

theorem get?_insert (map : StringMap α) (key other : String) (value : α) :
    (map.insert key value).get? other = if key = other then some value else map.get? other :=
  lookup_place key other value map.entries map.increasing

@[simp] theorem get?_insert_self (map : StringMap α) (key : String) (value : α) :
    (map.insert key value).get? key = some value := by simp [get?_insert]

theorem lookup_eq_none_of_lt {key : String} {list : List (String × α)}
    (above : ∀ entry ∈ list, key < entry.1) : lookup key list = none := by
  induction list with
  | nil => rfl
  | cons head rest ih =>
    have first : head.1 ≠ key := fun h => String.lt_irrefl _ (h ▸ above head List.mem_cons_self)
    simp [lookup, first, ih fun entry h => above entry (List.mem_cons_of_mem _ h)]

theorem lookup_eq_some_iff {key : String} {value : α} {list : List (String × α)}
    (sorted : list.Pairwise fun a b => a.1 < b.1) :
    lookup key list = some value ↔ (key, value) ∈ list := by
  induction list with
  | nil => simp [lookup]
  | cons head rest ih =>
    obtain ⟨k, v⟩ := head
    have ⟨above, tail⟩ := List.pairwise_cons.1 sorted
    rw [lookup]
    by_cases h : k = key
    · subst h
      have absent (w : α) : (k, w) ∉ rest := fun m =>
        absurd (above (k, w) m) (String.lt_irrefl k)
      simp [absent, eq_comm]
    · simp [h, ih tail, Ne.symm h]

theorem get?_eq_some_iff {map : StringMap α} {key : String} {value : α} :
    map.get? key = some value ↔ (key, value) ∈ map.entries :=
  lookup_eq_some_iff map.increasing

/-- Filtering keeps the value of a key if the test accepts it. -/
theorem get?_filter (map : StringMap α) (accept : String → α → Bool) (key : String) :
    (map.filter accept).get? key = (map.get? key).filter (accept key) := by
  ext value
  rw [get?_eq_some_iff, Option.filter_eq_some_iff, get?_eq_some_iff]
  exact List.mem_filter

theorem get?_erase (map : StringMap α) (key other : String) :
    (map.erase key).get? other = if key = other then none else map.get? other := by
  rw [erase, get?_filter]
  split
  case isTrue same =>
    subst same
    cases map.get? key <;> simp
  case isFalse different =>
    have kept : other ≠ key := fun equal => different equal.symm
    cases map.get? other <;> simp [kept]

theorem mem_keys_iff {map : StringMap α} {key : String} :
    key ∈ map.keys ↔ (map.get? key).isSome := by
  rw [keys, List.mem_map, Option.isSome_iff_exists]
  constructor
  · rintro ⟨⟨k, v⟩, member, rfl⟩
    exact ⟨v, get?_eq_some_iff.2 member⟩
  · rintro ⟨v, found⟩
    exact ⟨(key, v), get?_eq_some_iff.1 found, rfl⟩

theorem entries_eq_of_lookup_eq {left right : List (String × α)}
    (leftSorted : left.Pairwise fun a b => a.1 < b.1)
    (rightSorted : right.Pairwise fun a b => a.1 < b.1)
    (same : ∀ key, lookup key left = lookup key right) : left = right := by
  induction left generalizing right with
  | nil =>
    cases right with
    | nil => rfl
    | cons head rest => simpa [lookup] using same head.1
  | cons head rest ih =>
    obtain ⟨k, v⟩ := head
    have ⟨above, tail⟩ := List.pairwise_cons.1 leftSorted
    cases right with
    | nil => simpa [lookup] using same k
    | cons head' rest' =>
      obtain ⟨k', v'⟩ := head'
      have ⟨above', tail'⟩ := List.pairwise_cons.1 rightSorted
      have keysEqual : k = k' := by
        have here := same k
        have there := same k'
        rcases Std.lt_trichotomy k k' with h | h | h
        · have absent : lookup k ((k', v') :: rest') = none :=
            lookup_eq_none_of_lt fun e m => by
              rcases List.mem_cons.1 m with rfl | m
              · exact h
              · exact String.lt_trans h (above' e m)
          rw [absent] at here
          simp [lookup] at here
        · exact h
        · have absent : lookup k' ((k, v) :: rest) = none :=
            lookup_eq_none_of_lt fun e m => by
              rcases List.mem_cons.1 m with rfl | m
              · exact h
              · exact String.lt_trans h (above e m)
          rw [absent] at there
          simp [lookup] at there
      subst keysEqual
      have valuesEqual : v = v' := by simpa [lookup] using same k
      subst valuesEqual
      refine congrArg _ (ih tail tail' fun key => ?_)
      by_cases h : k = key
      · subst h
        rw [lookup_eq_none_of_lt above, lookup_eq_none_of_lt above']
      · simpa [lookup, h] using same key

/-- Two tables with the same look-ups are the same table. -/
theorem ext_get? {left right : StringMap α} (same : ∀ key, left.get? key = right.get? key) :
    left = right := by
  have equal := entries_eq_of_lookup_eq left.increasing right.increasing same
  cases left
  cases right
  cases equal
  rfl

end StringMap

/-- A finite set of strings, kept in increasing order. -/
abbrev StringSet := StringMap Unit

namespace StringSet

/-- Adds a string. -/
def add (set : StringSet) (element : String) : StringSet := set.insert element ()

/-- The elements, in increasing order. -/
def toList (set : StringSet) : List String := set.keys

theorem mem_toList_add {set : StringSet} {element new : String} :
    element ∈ (set.add new).toList ↔ element = new ∨ element ∈ set.toList := by
  rw [toList, toList, add, StringMap.mem_keys_iff, StringMap.mem_keys_iff, StringMap.get?_insert]
  by_cases same : new = element
  · simp [same]
  · simp [same, Ne.symm same]

/-- The elements that another set lacks, in increasing order. -/
def difference (set other : StringSet) : List String :=
  set.toList.filter fun element => !other.contains element

/-- The set of the strings of a list. -/
def ofStrings (elements : List String) : StringSet := elements.foldl add StringMap.empty

end StringSet

end WorkspaceVolumes
