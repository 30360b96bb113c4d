import Mathlib.Data.List.Infix
import WorkspaceVolumes.Log.Display
import WorkspaceVolumes.Proofs.StringMap

/-!
# Which events the tags let through

Whether an event is shown is decided when it happens, from the spans that are open then.  What the
test sees of them are tables, one for each span, in which later values have replaced earlier ones,
and one table made of these from the innermost span outwards.

**A history instead of tables.**  Here a span keeps all that was recorded on it, in order
(`OpenSpan`), and nothing is ever replaced.  Of such a history a tag asks for the innermost span
that holds its key, and there for the value that was recorded last (`IsVisible`).  The tables of a
run are made of its history (`framesAfter_eq`), and looking a key up in the table made of them all
is this search (`get?_mergedFields_frame`).

**What does not count.**  Most of a history is never asked for: a span that has been closed
(`openSpans_leftOut`), a value that a later one of the same span replaces, and one that a span
further in hides (`latestWithin?_of_hidden`).

## Main definitions

* `OpenSpan`, `openSpans`, `enclosing`: the history of a run as far as it is open.
* `IsVisible`, `Tagged`: what tags ask for.
* `leftOut?`: a run without one of its spans.
* `passes`: the decision of the test after a run.

## Main statements

* `passes_iff`: the test is that every tag is there.
* `shows_exactly_tagged`: which events are shown, and what this does not depend on.
-/

namespace WorkspaceVolumes

/-! ## Open spans with their history -/

/-- An open span with all that was recorded on it, first to last. -/
structure OpenSpan where
  level : Level
  name : String
  records : List (String × FieldValue)
  deriving DecidableEq

/-- The value that was recorded last for a key. -/
def latest? (key : String) (records : List (String × FieldValue)) : Option FieldValue :=
  (records.filter (·.1 = key)).getLast?.map Prod.snd

namespace OpenSpan

/-- The span after more has been recorded on it. -/
def recorded (values : List (String × FieldValue)) (span : OpenSpan) : OpenSpan :=
  { span with records := span.records ++ values }

/-- What the test keeps of a span. -/
def frame (filter : LevelFilter) (span : OpenSpan) : SpanFrame :=
  ⟨filter.shows span.level, span.name, .ofList span.records⟩

end OpenSpan

/-- The open spans after one more step, innermost first. -/
def openAfter (spans : List OpenSpan) : TraceStep → List OpenSpan
  | .openSpan level name fields => ⟨level, name, fields⟩ :: spans
  | .record values outward => spans.modify outward (·.recorded values)
  | .closeSpan => spans.tail
  | .event _ _ => spans

/-- The spans that are open after a run, innermost first. -/
def openSpans (run : Trace) : List OpenSpan := run.foldl openAfter []

/-- The spans that an event after a run is in, as far as they are important enough. -/
def enclosing (filter : LevelFilter) (run : Trace) : List OpenSpan :=
  (openSpans run).filter fun span => filter.shows span.level

/-- The tables of the spans that are open after a run. -/
def framesAfter (filter : LevelFilter) (run : Trace) : List SpanFrame :=
  run.foldl (spansAfter filter) []

/-- The tables that an event after a run is tested with. -/
def framesAround (filter : LevelFilter) (run : Trace) : List SpanFrame :=
  (framesAfter filter run).filter (·.enabled)

/-- Whether the tags let an event pass that comes after a run. -/
def passes (filter : LevelFilter) (tags : List Tag) (run : Trace) : Bool :=
  carriesTags tags (framesAround filter run)

/-! ## What tags ask for -/

/-- A value is the latest for a key on the innermost span that holds the key. -/
def IsVisible (spans : List OpenSpan) (key : String) (value : FieldValue) : Prop :=
  ∃ inner span outer, spans = inner ++ span :: outer ∧ latest? key span.records = some value ∧
    ∀ nearer ∈ inner, latest? key nearer.records = none

/-- A tag takes any value, or those in which its own value occurs. -/
def Tag.Accepts (tag : Tag) (value : FieldValue) : Prop :=
  tag.value = "*" ∨ tag.value.toList <:+: value.display.toList

/-- Spans carry tags: there is nothing to carry, or there is a span, and each tag takes the value
that is visible for its key. -/
def Tagged (tags : List Tag) (spans : List OpenSpan) : Prop :=
  tags = [] ∨ spans ≠ [] ∧ ∀ tag ∈ tags, ∃ value, IsVisible spans tag.key value ∧ tag.Accepts value

/-- Of a span nothing is asked for a key that was recorded before `later` was, if `later` has the
key or a span further in has it. -/
def Hidden (filter : LevelFilter) (inner : List OpenSpan) (later : List (String × FieldValue))
    (key : String) : Prop :=
  (latest? key later).isSome ∨
    ∃ span ∈ inner, filter.shows span.level ∧ (latest? key span.records).isSome

instance {filter : LevelFilter} {inner : List OpenSpan} {later : List (String × FieldValue)}
    {key : String} : Decidable (Hidden filter inner later key) :=
  inferInstanceAs (Decidable ((latest? key later).isSome ∨
    ∃ span ∈ inner, filter.shows span.level ∧ (latest? key span.records).isSome))

/-- What happens from the opening of a span on, without the span: its closing and all that is
recorded on it is left out, and what is recorded further out has one span less to pass.  There is
no such run if the span stays open.  So many spans as `depth` says are open further in. -/
def leftOut? (depth : Nat) : Trace → Option Trace
  | [] => none
  | .openSpan level name fields :: rest =>
    (leftOut? (depth + 1) rest).map (.openSpan level name fields :: ·)
  | .record values outward :: rest =>
    if outward = depth then leftOut? depth rest
    else
      (leftOut? depth rest).map
        (.record values (if outward < depth then outward else outward - 1) :: ·)
  | .closeSpan :: rest =>
    match depth with
    | 0 => some rest
    | depth + 1 => (leftOut? depth rest).map (.closeSpan :: ·)
  | .event level message :: rest => (leftOut? depth rest).map (.event level message :: ·)

/-! ## The latest value of a key -/

theorem latest?_append (key : String) (earlier later : List (String × FieldValue)) :
    latest? key (earlier ++ later) = (latest? key later).or (latest? key earlier) := by
  rw [latest?, List.filter_append, List.getLast?_append, Option.map_or]
  rfl

/-- The latest value for a key on the innermost of some spans that holds it. -/
def latestWithin? (key : String) (spans : List OpenSpan) : Option FieldValue :=
  spans.findSome? fun span => latest? key span.records

theorem isVisible_iff {spans : List OpenSpan} {key : String} {value : FieldValue} :
    IsVisible spans key value ↔ latestWithin? key spans = some value :=
  List.findSome?_eq_some_iff.symm

/-- What has been replaced or is hidden is not found. -/
theorem latestWithin?_of_hidden {filter : LevelFilter} {inner outer : List OpenSpan} {level : Level}
    {name key : String} {earlier earlier' later : List (String × FieldValue)}
    (unasked : latest? key earlier = latest? key earlier' ∨ Hidden filter inner later key) :
    latestWithin? key ((inner ++ ⟨level, name, earlier ++ later⟩ :: outer).filter
        fun span => filter.shows span.level) =
      latestWithin? key ((inner ++ ⟨level, name, earlier' ++ later⟩ :: outer).filter
        fun span => filter.shows span.level) := by
  rw [List.filter_append, List.filter_append, latestWithin?, latestWithin?, List.findSome?_append,
    List.findSome?_append]
  cases shown : filter.shows level with
  | false =>
    rw [List.filter_cons_of_neg (by simp [shown]), List.filter_cons_of_neg (by simp [shown])]
  | true =>
    rw [List.filter_cons_of_pos (by exact shown), List.filter_cons_of_pos (by exact shown),
      List.findSome?_cons, List.findSome?_cons, latest?_append, latest?_append]
    rcases unasked with same | replaced | ⟨span, member, important, holds⟩
    · rw [same]
    · rw [Option.or_of_isSome replaced, Option.or_of_isSome replaced]
    · have nearer : ((inner.filter fun span => filter.shows span.level).findSome?
          fun span => latest? key span.records).isSome :=
        List.findSome?_isSome_iff.2 ⟨span, List.mem_filter.2 ⟨member, important⟩, holds⟩
      rw [Option.or_of_isSome nearer, Option.or_of_isSome nearer]

/-! ## Histories and tables -/

section

variable (filter : LevelFilter)

theorem OpenSpan.frame_recorded (values : List (String × FieldValue)) (span : OpenSpan) :
    (span.frame filter).recorded values = (span.recorded values).frame filter := by
  have same : recordFields (.ofList span.records) values = .ofList (span.records ++ values) :=
    List.foldl_append.symm
  rw [SpanFrame.recorded, frame, same]
  rfl

theorem modify_map {α β : Type} {make : α → β} {change : α → α} {change' : β → β}
    (same : ∀ element, change' (make element) = make (change element)) (list : List α)
    (index : Nat) : (list.map make).modify index change' = (list.modify index change).map make := by
  refine List.ext_getElem? fun position => ?_
  rw [List.getElem?_modify, List.getElem?_map, List.getElem?_map, List.getElem?_modify]
  split <;> cases list[position]? <;> simp [same]

/-- A step does to the tables what it does to the history. -/
theorem spansAfter_map_frame (spans : List OpenSpan) (step : TraceStep) :
    spansAfter filter (spans.map (·.frame filter)) step =
      (openAfter spans step).map (·.frame filter) := by
  cases step with
  | openSpan level name fields => rfl
  | record values outward => exact modify_map (OpenSpan.frame_recorded filter values) spans outward
  | closeSpan => exact (List.map_tail).symm
  | event level message => rfl

/-- **The tables of a run are those of its history.** -/
theorem framesAfter_eq (run : Trace) :
    framesAfter filter run = (openSpans run).map (·.frame filter) := by
  have start : ([] : List SpanFrame) = ([] : List OpenSpan).map (·.frame filter) := rfl
  rw [framesAfter, start]
  exact List.foldl_hom _ (spansAfter_map_frame filter)

theorem framesAround_eq (run : Trace) :
    framesAround filter run = (enclosing filter run).map (·.frame filter) := by
  rw [framesAround, framesAfter_eq, List.filter_map]
  rfl

end

/-! ## Looking up a key -/

/-- Where a field is known, it stays. -/
theorem get?_fill (fields : StringMap FieldValue) (name key : String) (value : FieldValue) :
    (if fields.contains name then fields else fields.insert name value).get? key =
      (fields.get? key).or (if name = key then some value else none) := by
  cases known : fields.contains name with
  | true =>
    obtain ⟨stored, found⟩ := Option.isSome_iff_exists.1 known
    rw [if_pos rfl]
    split
    case isTrue same => rw [← same, found, Option.some_or]
    case isFalse => rw [Option.or_none]
  | false =>
    have absent : fields.get? name = none := by simpa [StringMap.contains] using known
    rw [if_neg Bool.false_ne_true, StringMap.get?_insert]
    split
    case isTrue same => rw [← same, absent, Option.none_or]
    case isFalse => rw [Option.or_none]

theorem get?_fillFields (values : List (String × FieldValue)) (fields : StringMap FieldValue)
    (key : String) :
    (fillFields fields values).get? key = (fields.get? key).or (StringMap.lookup key values) := by
  induction values generalizing fields with
  | nil => exact Option.or_none.symm
  | cons head rest ih =>
    rw [fillFields, List.foldl_cons]
    refine (ih _).trans ?_
    rw [get?_fill, Option.or_assoc, StringMap.lookup]
    split <;> rfl

/-- In the table made of all tables a key has the value of the innermost span that has the key. -/
theorem get?_mergedFields (spans : List SpanFrame) (key : String) :
    (mergedFields spans).get? key = spans.findSome? (·.fields.get? key) := by
  have outwards (fields : StringMap FieldValue) :
      (spans.foldl (fun fields span => fillFields fields span.fields.entries) fields).get? key =
        (fields.get? key).or (spans.findSome? (·.fields.get? key)) := by
    induction spans generalizing fields with
    | nil => exact Option.or_none.symm
    | cons span rest ih =>
      rw [List.foldl_cons, ih, get?_fillFields, Option.or_assoc, List.findSome?_cons]
      change ((fields.get? key).or ((span.fields.get? key).or _)) = _
      cases span.fields.get? key <;> rfl
  rw [mergedFields, outwards, StringMap.get?_empty, Option.none_or]

theorem get?_mergedFields_frame (filter : LevelFilter) (spans : List OpenSpan) (key : String) :
    (mergedFields (spans.map (·.frame filter))).get? key = latestWithin? key spans := by
  rw [get?_mergedFields, List.findSome?_map]
  congr 1
  exact funext fun span => StringMap.get?_ofList span.records key

/-! ## The test -/

theorem occursIn_iff {part text : List Char} : occursIn part text = true ↔ part <:+: text := by
  induction text with
  | nil => rw [occursIn, List.isEmpty_iff, List.infix_nil]
  | cons c rest ih =>
    rw [occursIn, Bool.or_eq_true, List.isPrefixOf_iff_prefix, ih, List.infix_cons_iff]

theorem hasTag_frame_iff {filter : LevelFilter} {spans : List OpenSpan} {tag : Tag} :
    hasTag (mergedFields (spans.map (·.frame filter))) tag = true ↔
      ∃ value, IsVisible spans tag.key value ∧ tag.Accepts value := by
  rw [hasTag, get?_mergedFields_frame, Option.any_eq_true]
  refine exists_congr fun value => and_congr isVisible_iff.symm ?_
  rw [Bool.or_eq_true, decide_eq_true_iff, occursIn_iff]
  rfl

theorem carriesTags_iff {tags : List Tag} {frames : List SpanFrame} :
    carriesTags tags frames = true ↔
      tags = [] ∨ frames ≠ [] ∧ ∀ tag ∈ tags, hasTag (mergedFields frames) tag = true := by
  rw [carriesTags, Bool.or_eq_true, List.isEmpty_iff, Bool.and_eq_true, Bool.not_eq_true',
    List.isEmpty_eq_false_iff, List.all_eq_true]

/-- **The test is that every tag is there.** -/
theorem passes_iff {filter : LevelFilter} {tags : List Tag} {run : Trace} :
    passes filter tags run = true ↔ Tagged tags (enclosing filter run) := by
  rw [passes, framesAround_eq, carriesTags_iff, Ne, List.map_eq_nil_iff]
  exact or_congr_right (and_congr_right fun _ => forall₂_congr fun _ _ => hasTag_frame_iff)

/-- More tags are harder to carry. -/
theorem carriesTags_of_subset {tags more : List Tag} {frames : List SpanFrame}
    (subset : tags ⊆ more) (carries : carriesTags more frames = true) :
    carriesTags tags frames = true := by
  rw [carriesTags_iff] at carries ⊢
  rcases carries with rfl | ⟨inside, all⟩
  · exact .inl (List.subset_nil.1 subset)
  · exact .inr ⟨inside, fun tag member => all tag (subset member)⟩

/-! ## What is shown -/

theorem shownWithin_append (filter : LevelFilter) (tags : List Tag) (spans : List SpanFrame)
    (run rest : Trace) :
    shownWithin filter tags spans (run ++ rest) =
      shownWithin filter tags spans run ++
        shownWithin filter tags (run.foldl (spansAfter filter) spans) rest := by
  induction run generalizing spans with
  | nil => rfl
  | cons step run ih => rw [List.cons_append, shownWithin, shownWithin, ih, List.append_assoc]; rfl

theorem shownEvents_append_event (filter : LevelFilter) (tags : List Tag) (run : Trace)
    (level : Level) (message : String) :
    shownEvents filter tags (run ++ [.event level message]) =
      shownEvents filter tags run ++
        if filter.shows level && passes filter tags run then
          [⟨level, message, (framesAround filter run).reverse⟩]
        else [] := by
  rw [shownEvents, shownWithin_append, shownWithin, shownWithin, List.append_nil]
  rfl

theorem shownBy_sublist {tags more : List Tag} (subset : tags ⊆ more) (filter : LevelFilter)
    (spans : List SpanFrame) (step : TraceStep) :
    (shownBy filter more spans step).Sublist (shownBy filter tags spans step) := by
  cases step with
  | event level message =>
    rw [shownBy, shownBy]
    split
    case isTrue shown =>
      obtain ⟨important, carries⟩ := Bool.and_eq_true_iff.1 shown
      rw [if_pos (Bool.and_eq_true_iff.2 ⟨important, carriesTags_of_subset subset carries⟩)]
    case isFalse => exact List.nil_sublist _
  | openSpan | record | closeSpan => exact List.nil_sublist _

/-- With more tags no more is shown. -/
theorem shownWithin_sublist {tags more : List Tag} (subset : tags ⊆ more) (filter : LevelFilter)
    (spans : List SpanFrame) (run : Trace) :
    (shownWithin filter more spans run).Sublist (shownWithin filter tags spans run) := by
  induction run generalizing spans with
  | nil => exact List.nil_sublist _
  | cons step run ih => exact (shownBy_sublist subset filter spans step).append (ih _)

/-! ## What does not count -/

theorem modify_append_left {α : Type} (change : α → α) {inner : List α} (outer : List α)
    {index : Nat} (within : index < inner.length) :
    (inner ++ outer).modify index change = inner.modify index change ++ outer := by
  induction inner generalizing index with
  | nil => exact absurd within (Nat.not_lt_zero _)
  | cons head rest ih =>
    cases index with
    | zero => rfl
    | succ index =>
      exact congrArg (head :: ·) (ih (Nat.lt_of_succ_lt_succ within))

theorem modify_append_right {α : Type} (change : α → α) (inner outer : List α) (further : Nat) :
    (inner ++ outer).modify (inner.length + further) change =
      inner ++ outer.modify further change := by
  induction inner with
  | nil => rw [List.length_nil, Nat.zero_add]; rfl
  | cons head rest ih =>
    rw [List.length_cons, Nat.succ_add]
    exact congrArg (head :: ·) ih

/-- A span that is closed in the end can be left out, whatever is opened and recorded further in
and further out meanwhile. -/
theorem foldl_openAfter_leftOut {rest left : Trace} (inner : List OpenSpan)
    (closes : leftOut? inner.length rest = some left) (span : OpenSpan) (outer : List OpenSpan) :
    rest.foldl openAfter (inner ++ span :: outer) = left.foldl openAfter (inner ++ outer) := by
  -- By induction on what happens; the spans further in are a prefix that grows and shrinks with it.
  induction rest generalizing inner span outer left with
  | nil => cases closes
  | cons step rest ih =>
    cases step with
    | openSpan level name fields =>
      obtain ⟨others, closed, rfl⟩ := Option.map_eq_some_iff.1 closes
      exact ih (⟨level, name, fields⟩ :: inner) closed span outer
    | record values outward =>
      rw [leftOut?] at closes
      rcases Nat.lt_trichotomy outward inner.length with within | rfl | beyond
      · rw [if_neg (Nat.ne_of_lt within), if_pos within] at closes
        obtain ⟨others, closed, rfl⟩ := Option.map_eq_some_iff.1 closes
        rw [List.foldl_cons, List.foldl_cons, openAfter, openAfter,
          modify_append_left _ _ within, modify_append_left _ _ within]
        exact ih _ (by rwa [List.length_modify]) span outer
      · rw [if_pos rfl] at closes
        have changed := modify_append_right (OpenSpan.recorded values) inner (span :: outer) 0
        exact (congrArg (rest.foldl openAfter) changed).trans
          (ih inner closes (span.recorded values) outer)
      · obtain ⟨further, rfl⟩ := Nat.exists_eq_add_of_lt beyond
        rw [if_neg (Nat.ne_of_gt beyond), if_neg (Nat.lt_asymm beyond)] at closes
        obtain ⟨others, closed, rfl⟩ := Option.map_eq_some_iff.1 closes
        rw [List.foldl_cons, List.foldl_cons, openAfter, openAfter, Nat.add_sub_cancel,
          modify_append_right, Nat.add_assoc, modify_append_right]
        exact ih inner closed span _
    | closeSpan =>
      cases inner with
      | nil => exact congrArg (List.foldl openAfter outer) (Option.some.inj closes)
      | cons nearest inner =>
        obtain ⟨others, closed, rfl⟩ := Option.map_eq_some_iff.1 closes
        exact ih inner closed span outer
    | event level message =>
      obtain ⟨others, closed, rfl⟩ := Option.map_eq_some_iff.1 closes
      exact ih inner closed span outer

/-- **A closed span is as one that never was.** -/
theorem openSpans_leftOut {rest left : Trace} (closes : leftOut? 0 rest = some left) (run : Trace)
    (level : Level) (name : String) (fields : List (String × FieldValue)) :
    openSpans (run ++ .openSpan level name fields :: rest) = openSpans (run ++ left) := by
  rw [openSpans, openSpans, List.foldl_append, List.foldl_append]
  exact foldl_openAfter_leftOut [] closes ⟨level, name, fields⟩ (openSpans run)

theorem passes_congr {filter : LevelFilter} {tags : List Tag} {run run' : Trace}
    (inside : enclosing filter run = [] ↔ enclosing filter run' = [])
    (same : ∀ tag ∈ tags,
      latestWithin? tag.key (enclosing filter run) =
        latestWithin? tag.key (enclosing filter run')) :
    passes filter tags run = passes filter tags run' := by
  rw [Bool.eq_iff_iff, passes_iff, passes_iff, Tagged, Tagged, Ne, Ne, inside]
  refine or_congr_right (and_congr_right fun _ => forall₂_congr fun tag member =>
    exists_congr fun value => and_congr_left fun _ => ?_)
  rw [isVisible_iff, isVisible_iff, same tag member]

theorem passes_of_openSpans {run run' : Trace} (same : openSpans run = openSpans run')
    (filter : LevelFilter) (tags : List Tag) :
    passes filter tags run = passes filter tags run' := by
  rw [passes, passes, framesAround_eq, framesAround_eq, enclosing, enclosing, same]

/-- Whether there is a span around an event does not depend on what is recorded. -/
theorem enclosing_eq_nil_iff {filter : LevelFilter} {run run' : Trace}
    {inner outer : List OpenSpan} {level : Level} {name : String}
    {records records' : List (String × FieldValue)}
    (spans : openSpans run = inner ++ ⟨level, name, records⟩ :: outer)
    (spans' : openSpans run' = inner ++ ⟨level, name, records'⟩ :: outer) :
    enclosing filter run = [] ↔ enclosing filter run' = [] := by
  rw [enclosing, enclosing, spans, spans', List.filter_eq_nil_iff, List.filter_eq_nil_iff]
  simp only [List.forall_mem_append, List.forall_mem_cons]

/-- **The tags let through just the events that are tagged.**  Take any tags, and any run in which
spans are opened with fields, get further fields while they are open, and are closed, inner ones
before outer ones.  An event that comes next passes the test if, and only if, there are no tags, or
it is in a span that is important enough, and for each tag there is such a span that holds the key
of the tag, and the latest value of the innermost one of these has the value of the tag in it, or
the tag takes any value.  So it is shown, within these spans, if it passes and is important enough.

It makes no difference to the decision
* if a span that has been closed is left out;
* what was recorded on a span before it got another value for the key, or while a span further in
  holds the key;
* in which order the tags are given, or how often.

And with more tags, the events that are shown are some of those that are shown without. -/
theorem shows_exactly_tagged (filter : LevelFilter) (tags : List Tag) (run : Trace) :
    (passes filter tags run = true ↔ Tagged tags (enclosing filter run)) ∧
    (∀ level message,
      shownEvents filter tags (run ++ [.event level message]) =
        shownEvents filter tags run ++
          if filter.shows level && passes filter tags run then
            [⟨level, message, ((enclosing filter run).map (·.frame filter)).reverse⟩]
          else []) ∧
    (∀ level name fields rest left, leftOut? 0 rest = some left →
      passes filter tags (run ++ .openSpan level name fields :: rest) =
        passes filter tags (run ++ left)) ∧
    (∀ run' inner level name earlier earlier' later outer,
      openSpans run = inner ++ ⟨level, name, earlier ++ later⟩ :: outer →
      openSpans run' = inner ++ ⟨level, name, earlier' ++ later⟩ :: outer →
      (∀ tag ∈ tags, latest? tag.key earlier = latest? tag.key earlier' ∨
        Hidden filter inner later tag.key) →
      passes filter tags run = passes filter tags run') ∧
    (∀ reordered, (∀ tag, tag ∈ tags ↔ tag ∈ reordered) →
      shownEvents filter tags run = shownEvents filter reordered run) ∧
    ∀ more, tags ⊆ more →
      (shownEvents filter more run).Sublist (shownEvents filter tags run) := by
  refine ⟨passes_iff, fun level message => ?_, ?_, ?_, ?_, ?_⟩
  · rw [← framesAround_eq]
    exact shownEvents_append_event filter tags run level message
  · intro level name fields rest left closes
    exact passes_of_openSpans (openSpans_leftOut closes run level name fields) filter tags
  · intro run' inner level name earlier earlier' later outer spans spans' unasked
    refine passes_congr (enclosing_eq_nil_iff spans spans') fun tag member => ?_
    rw [enclosing, enclosing, spans, spans']
    exact latestWithin?_of_hidden (unasked tag member)
  · intro reordered same
    have fewer : tags ⊆ reordered := fun tag => (same tag).1
    have fewer' : reordered ⊆ tags := fun tag => (same tag).2
    exact (shownWithin_sublist fewer' filter [] run).antisymm
      (shownWithin_sublist fewer filter [] run)
  · intro more subset
    exact shownWithin_sublist subset filter [] run

/-- A span that is not important enough has the key, two others have it further out, and on the
innermost the value was recorded late and twice. -/
theorem shows_exactly_tagged_recorded_late :
    let filter : LevelFilter := some .info
    let tags : List Tag := [⟨"strategy", "mon"⟩, ⟨"workspace", "*"⟩]
    let session (strategy : String) : TraceStep :=
      .openSpan .info "session" [("workspace", .text "ws1"), ("strategy", .text strategy)]
    let run (outer early : String) : Trace :=
      [session outer, .openSpan .info "reconcile" [], .record [("strategy", .text early)],
        .record [("strategy", .text "common")],
        .openSpan .debug "look up" [("strategy", .text "none")]]
    let closed : Trace := [.record [("volumes", .whole 2)] 2, .event .info "attached", .closeSpan]
    passes filter tags (run "none" "emptyDir") = true ∧
      shownEvents filter tags (run "none" "emptyDir" ++ [.event .info "done"]) ≠ [] ∧
      passes filter tags (run "none" "emptyDir" ++ .openSpan .info "attach" [] :: closed) =
        passes filter tags
          (run "none" "emptyDir" ++ [.record [("volumes", .whole 2)] 1, .event .info "attached"]) ∧
      passes filter tags (run "none" "emptyDir") = passes filter tags (run "none" "durable") ∧
      passes filter tags (run "none" "emptyDir") = passes filter tags (run "common" "emptyDir") ∧
      shownEvents filter tags (run "none" "emptyDir") =
        shownEvents filter tags.reverse (run "none" "emptyDir") ∧
      (shownEvents filter (⟨"pod", "*"⟩ :: tags) (run "none" "emptyDir")).Sublist
        (shownEvents filter tags (run "none" "emptyDir")) := by
  intro filter tags session run closed
  obtain ⟨decides, shows, drops, ignores, reorders, adds⟩ :=
    shows_exactly_tagged filter tags (run "none" "emptyDir")
  let workspace : String × FieldValue := ("workspace", .text "ws1")
  let unimportant : OpenSpan := ⟨.debug, "look up", [("strategy", .text "none")]⟩
  let reconcile : OpenSpan :=
    ⟨.info, "reconcile", [("strategy", .text "emptyDir"), ("strategy", .text "common")]⟩
  have around : enclosing filter (run "none" "emptyDir") =
      [reconcile, ⟨.info, "session", [workspace, ("strategy", .text "none")]⟩] := by decide
  have tagged : passes filter tags (run "none" "emptyDir") = true := by
    refine decides.2 (.inr ⟨by rw [around]; exact List.cons_ne_nil _ _, ?_⟩)
    rw [around]
    intro tag member
    rcases List.mem_pair.1 member with rfl | rfl
    · exact ⟨.text "common", ⟨[], _, _, rfl, by decide, nofun⟩, .inr (by decide)⟩
    · exact ⟨.text "ws1", ⟨[_], _, [], rfl, by decide, by decide⟩, .inl rfl⟩
  refine ⟨tagged, ?_, ?_, ?_, ?_, ?_, ?_⟩
  · rw [shows, tagged]
    exact List.append_ne_nil_of_right_ne_nil _ (List.cons_ne_nil _ _)
  · exact drops _ _ _ closed _ rfl
  · exact ignores (run "none" "durable") [unimportant] .info "reconcile"
      [("strategy", .text "emptyDir")] [("strategy", .text "durable")]
      [("strategy", .text "common")]
      [⟨.info, "session", [workspace, ("strategy", .text "none")]⟩]
      (by decide) (by decide) (by decide)
  · exact ignores (run "common" "emptyDir") [unimportant, reconcile] .info "session"
      [workspace, ("strategy", .text "none")] [workspace, ("strategy", .text "common")] [] []
      (by decide) (by decide) (by decide)
  · exact reorders _ fun tag => List.mem_reverse.symm
  · exact adds _ (List.subset_cons_self _ _)

end WorkspaceVolumes
