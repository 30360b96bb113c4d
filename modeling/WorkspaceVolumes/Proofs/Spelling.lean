import Mathlib.Data.List.DropRight
import WorkspaceVolumes.Log.Tag

/-!
# How tags are spelled

A list of tags is read from one text.  What a text can say is less than what a pair of strings can
be: no key is empty, a key holds neither a comma nor a colon, a value holds no comma, and neither
starts or ends with a blank (`Tag.WellFormed`).  Of such tags nothing is lost when they are written
and read again.

**Many spellings, one text.**  A tag can be spelled in many ways, since blanks may stand around its
key and around its value (`Tag.Spells`).  Reading finds the tag behind each of them, and
`Tag.text` is the spelling without blanks.

**Segment by segment.**  A comma is never part of a tag, so what is read left of a comma does not
depend on what stands right of it (`Tag.parseList_append`).  A malformed segment, which has no colon
or nothing but blanks in front of it, spells no tag and is only passed over.

## Main definitions

* `Text.IsTrimmed`, `Text.IsPadded`: a text without blanks at its ends, and a text between blanks.
* `Tag.WellFormed`, `Tag.Spells`, `Tag.Malformed`: tags that can be read, the segments that they are
  read from, and the segments that nothing is read from.
* `Tag.text`, `Tag.listText`: the writing of a tag and of a list of tags.

## Main statements

* `Text.trim_eq_iff`: trimming finds the text between the blanks.
* `Tag.ofSegment?_eq_some_iff`: a segment is read as the tag that it spells.
* `Tag.parsing_inverts_writing`: reading and writing are inverse on tags that are well formed.
-/

namespace WorkspaceVolumes

/-! ## Cutting a text -/

theorem splitAt_eq_splitOn (separator : Char) (text : List Char) :
    splitAt separator text = text.splitOn separator := by
  induction text with
  | nil => rfl
  | cons c rest ih =>
    rw [splitAt, List.splitOn_cons_eq_if_modifyHead, ih]
    by_cases same : c = separator
    · rw [if_pos same, if_pos (beq_iff_eq.2 same)]
    · rw [if_neg same, if_neg (mt beq_iff_eq.1 same)]
      cases cut : rest.splitOn separator with
      | nil => exact absurd cut (List.splitOn_ne_nil separator rest)
      | cons piece pieces => rfl

/-- No piece holds the character at which the text has been cut. -/
theorem separator_notMem_of_mem_splitAt {separator : Char} {text piece : List Char}
    (member : piece ∈ splitAt separator text) : separator ∉ piece := by
  induction text generalizing piece with
  | nil =>
    obtain rfl := List.mem_singleton.1 member
    exact List.not_mem_nil
  | cons c rest ih =>
    rw [splitAt] at member
    split at member
    case isTrue =>
      rcases List.mem_cons.1 member with rfl | further
      · exact List.not_mem_nil
      · exact ih further
    case isFalse other =>
      cases cut : splitAt separator rest with
      | nil =>
        rw [splitAt_eq_splitOn] at cut
        exact absurd cut (List.splitOn_ne_nil separator rest)
      | cons first pieces =>
        rw [cut] at ih member
        rcases List.mem_cons.1 member with rfl | further
        · intro inside
          rcases List.mem_cons.1 inside with same | later
          · exact other same.symm
          · exact ih List.mem_cons_self later
        · exact ih (List.mem_cons_of_mem first further)

/-! ## Trimming a text -/

namespace Text

/-- A text neither starts nor ends with a blank. -/
structure IsTrimmed (text : List Char) : Prop where
  starts : ∀ c ∈ text.head?, isBlank c = false
  ends : ∀ c ∈ text.getLast?, isBlank c = false

/-- A text stands between blanks, of which there may be none. -/
def IsPadded (text padded : List Char) : Prop :=
  ∃ front back, padded = front ++ (text ++ back) ∧
    (∀ c ∈ front, isBlank c = true) ∧ ∀ c ∈ back, isBlank c = true

theorem IsPadded.refl (text : List Char) : IsPadded text text :=
  ⟨[], [], (List.append_nil text).symm, nofun, nofun⟩

theorem IsPadded.subset {text padded : List Char} (isPadded : IsPadded text padded) :
    text ⊆ padded := by
  obtain ⟨front, back, rfl, -, -⟩ := isPadded
  intro c member
  exact List.mem_append_right front (List.mem_append_left back member)

/-- A character that is not blank is one of the text. -/
theorem IsPadded.mem_iff {text padded : List Char} (isPadded : IsPadded text padded) {c : Char}
    (visible : isBlank c = false) : c ∈ padded ↔ c ∈ text := by
  obtain ⟨front, back, rfl, before, behind⟩ := isPadded
  have notBefore : c ∉ front := fun member => Bool.eq_false_iff.1 visible (before c member)
  have notBehind : c ∉ back := fun member => Bool.eq_false_iff.1 visible (behind c member)
  rw [List.mem_append, List.mem_append, or_iff_right notBefore, or_iff_left notBehind]

/-- Blanks stand around a text that is empty if, and only if, there is nothing but blanks. -/
theorem isPadded_nil_iff {padded : List Char} :
    IsPadded [] padded ↔ ∀ c ∈ padded, isBlank c = true := by
  constructor
  · rintro ⟨front, back, rfl, before, behind⟩
    exact List.forall_mem_append.2 ⟨before, behind⟩
  · intro blank
    exact ⟨padded, [], (List.append_nil padded).symm, blank, nofun⟩

theorem starts_dropWhile (text : List Char) :
    ∀ c ∈ (text.dropWhile isBlank).head?, isBlank c = false := by
  intro c first
  have stops := List.head?_dropWhile_not isBlank text
  rwa [Option.mem_def.1 first] at stops

theorem dropWhile_append_of_starts {front text : List Char}
    (blank : ∀ c ∈ front, isBlank c = true) (starts : ∀ c ∈ text.head?, isBlank c = false) :
    (front ++ text).dropWhile isBlank = text := by
  rw [List.dropWhile_append_of_pos blank]
  cases text with
  | nil => rfl
  | cons c rest => exact List.dropWhile_cons_of_neg (Bool.eq_false_iff.1 (starts c rfl))

/-- Trimming drops the blanks at the start, and then those at the end. -/
theorem trim_eq_rdropWhile (text : List Char) :
    trim text = (text.dropWhile isBlank).rdropWhile isBlank := rfl

theorem isTrimmed_trim (text : List Char) : IsTrimmed (trim text) := by
  constructor
  · intro c first
    -- What is dropped at the end does not take away the start.
    obtain ⟨back, whole⟩ := List.rdropWhile_prefix isBlank (l := text.dropWhile isBlank)
    refine starts_dropWhile text c ?_
    rw [← whole, ← trim_eq_rdropWhile, List.head?_append, Option.mem_def.1 first]
    rfl
  · intro c last
    rw [trim, List.getLast?_reverse] at last
    exact starts_dropWhile _ c last

theorem isPadded_trim (text : List Char) : IsPadded (trim text) text := by
  refine ⟨text.takeWhile isBlank, (text.dropWhile isBlank).rtakeWhile isBlank, ?_, ?_, ?_⟩
  · rw [trim_eq_rdropWhile, List.rdropWhile_append_rtakeWhile, List.takeWhile_append_dropWhile]
  · exact fun c member => List.mem_takeWhile_imp member
  · exact fun c member => List.mem_rtakeWhile_imp member

/-- **Trimming finds the text between the blanks.** -/
theorem trim_eq_iff {text padded : List Char} :
    trim padded = text ↔ IsTrimmed text ∧ IsPadded text padded := by
  constructor
  · rintro rfl
    exact ⟨isTrimmed_trim padded, isPadded_trim padded⟩
  · rintro ⟨⟨starts, ends⟩, front, back, rfl, before, behind⟩
    cases text with
    | nil =>
      have blank : ∀ c ∈ front ++ back, isBlank c = true :=
        List.forall_mem_append.2 ⟨before, behind⟩
      rw [trim, List.nil_append, List.dropWhile_eq_nil_iff.2 blank]
      rfl
    | cons first rest =>
      have left : (front ++ (first :: rest ++ back)).dropWhile isBlank = first :: rest ++ back :=
        dropWhile_append_of_starts before starts
      have right : (first :: rest ++ back).reverse.dropWhile isBlank = (first :: rest).reverse := by
        rw [List.reverse_append]
        refine dropWhile_append_of_starts (fun c member => behind c (List.mem_reverse.1 member)) ?_
        rwa [List.head?_reverse]
      rw [trim, left, right, List.reverse_reverse]

theorem trim_eq_self_iff {text : List Char} : trim text = text ↔ IsTrimmed text := by
  rw [trim_eq_iff]
  exact and_iff_left (.refl text)

instance (text : List Char) : Decidable (IsTrimmed text) := decidable_of_iff _ trim_eq_self_iff

/-- Nothing is left of a text that is blank, and of no other. -/
theorem trim_eq_nil_iff {text : List Char} : trim text = [] ↔ ∀ c ∈ text, isBlank c = true := by
  rw [trim_eq_iff, isPadded_nil_iff]
  exact and_iff_right ⟨nofun, nofun⟩

end Text

/-! ## Segments -/

namespace Tag

/-- A tag that a text can say. -/
structure WellFormed (tag : Tag) : Prop where
  named : tag.key ≠ ""
  key : Text.IsTrimmed tag.key.toList
  value : Text.IsTrimmed tag.value.toList
  /-- The key ends at the first colon, and the segment at the first comma. -/
  keyApart : ',' ∉ tag.key.toList ∧ ':' ∉ tag.key.toList
  /-- A value may hold colons. -/
  valueApart : ',' ∉ tag.value.toList

instance (tag : Tag) : Decidable tag.WellFormed :=
  decidable_of_iff (tag.key ≠ "" ∧ Text.IsTrimmed tag.key.toList ∧
      Text.IsTrimmed tag.value.toList ∧ (',' ∉ tag.key.toList ∧ ':' ∉ tag.key.toList) ∧
      ',' ∉ tag.value.toList)
    ⟨fun ⟨named, key, value, keyApart, valueApart⟩ => ⟨named, key, value, keyApart, valueApart⟩,
      fun ⟨named, key, value, keyApart, valueApart⟩ => ⟨named, key, value, keyApart, valueApart⟩⟩

/-- A segment spells a tag: the key, a colon and the value, with blanks around both. -/
def Spells (tag : Tag) (segment : List Char) : Prop :=
  ∃ key value, segment = key ++ ':' :: value ∧
    Text.IsPadded tag.key.toList key ∧ Text.IsPadded tag.value.toList value

/-- A segment spells no tag: it has no colon, or nothing but blanks in front of one. -/
def Malformed (segment : List Char) : Prop :=
  ':' ∉ segment ∨ ∃ key value, segment = key ++ ':' :: value ∧ ∀ c ∈ key, Text.isBlank c = true

/-- A tag as it is written, without blanks. -/
def text (tag : Tag) : String := tag.key ++ ":" ++ tag.value

/-- Tags as they are written, with commas between them. -/
def listText (tags : List Tag) : String := String.intercalate "," (tags.map text)

theorem toList_text (tag : Tag) : tag.text.toList = tag.key.toList ++ ':' :: tag.value.toList := by
  unfold text
  rw [String.toList_append, String.toList_append, List.append_assoc]
  rfl

theorem ofSegment?_of_notMem {segment : List Char} (plain : ':' ∉ segment) :
    ofSegment? segment = none := by
  have all : ∀ c ∈ segment, decide (c ≠ ':') = true := by
    intro c member
    exact decide_eq_true (ne_of_mem_of_not_mem member plain)
  rw [ofSegment?, List.dropWhile_eq_nil_iff.2 all]

/-- A segment is cut at its first colon. -/
theorem ofSegment?_append {key : List Char} (apart : ':' ∉ key) (value : List Char) :
    ofSegment? (key ++ ':' :: value) =
      if (Text.trim key).isEmpty then none
      else some ⟨String.ofList (Text.trim key), String.ofList (Text.trim value)⟩ := by
  have all : ∀ c ∈ key, decide (c ≠ ':') = true := by
    intro c member
    exact decide_eq_true (ne_of_mem_of_not_mem member apart)
  have front : (key ++ ':' :: value).takeWhile (· ≠ ':') = key := by
    rw [List.takeWhile_append_of_pos all, List.takeWhile_cons_of_neg (by simp), List.append_nil]
  have back : (key ++ ':' :: value).dropWhile (· ≠ ':') = ':' :: value := by
    rw [List.dropWhile_append_of_pos all, List.dropWhile_cons_of_neg (by simp)]
  rw [ofSegment?, back, front]

theorem isPadded_toList_trim (text : List Char) :
    Text.IsPadded (String.ofList (Text.trim text)).toList text := by
  rw [String.toList_ofList]
  exact Text.isPadded_trim text

/-- What stands between the blanks makes a tag, unless there is no key. -/
theorem wellFormed_trim {key value : List Char} (named : Text.trim key ≠ [])
    (keyApart : ',' ∉ key ∧ ':' ∉ key) (valueApart : ',' ∉ value) :
    WellFormed ⟨String.ofList (Text.trim key), String.ofList (Text.trim value)⟩ where
  named empty := named (String.ofList_eq_empty_iff.1 empty)
  key := by
    rw [String.toList_ofList]
    exact Text.isTrimmed_trim key
  value := by
    rw [String.toList_ofList]
    exact Text.isTrimmed_trim value
  keyApart :=
    ⟨fun member => keyApart.1 ((isPadded_toList_trim key).subset member),
      fun member => keyApart.2 ((isPadded_toList_trim key).subset member)⟩
  valueApart member := valueApart ((isPadded_toList_trim value).subset member)

/-- Nothing is read from a malformed segment, and from no other. -/
theorem ofSegment?_eq_none_iff {segment : List Char} :
    ofSegment? segment = none ↔ Malformed segment := by
  constructor
  · intro unread
    by_cases colon : ':' ∈ segment
    · obtain ⟨key, value, rfl, apart⟩ := List.eq_append_cons_of_mem colon
      rw [ofSegment?_append apart] at unread
      split at unread
      case isTrue empty =>
        exact .inr ⟨key, value, rfl, Text.trim_eq_nil_iff.1 (List.isEmpty_iff.1 empty)⟩
      case isFalse => cases unread
    · exact .inl colon
  · rintro (plain | ⟨key, value, rfl, blank⟩)
    · exact ofSegment?_of_notMem plain
    · have apart : ':' ∉ key := fun member => absurd (blank ':' member) (by decide)
      rw [ofSegment?_append apart, Text.trim_eq_nil_iff.2 blank]
      rfl

/-- **A segment is read as the tag that it spells.** -/
theorem ofSegment?_eq_some_iff {segment : List Char} (apart : ',' ∉ segment) {tag : Tag} :
    ofSegment? segment = some tag ↔ tag.WellFormed ∧ tag.Spells segment := by
  constructor
  · intro read
    by_cases colon : ':' ∈ segment
    · obtain ⟨key, value, rfl, first⟩ := List.eq_append_cons_of_mem colon
      rw [ofSegment?_append first] at read
      split at read
      case isTrue => cases read
      case isFalse named =>
        obtain rfl := Option.some.inj read
        have commas := not_or.1 (mt List.mem_append.2 apart)
        exact ⟨wellFormed_trim (mt List.isEmpty_iff.2 named) ⟨commas.1, first⟩
            (mt (List.mem_cons_of_mem ':') commas.2),
          key, value, rfl, isPadded_toList_trim key, isPadded_toList_trim value⟩
    · rw [ofSegment?_of_notMem colon] at read
      cases read
  · rintro ⟨wellFormed, key, value, rfl, keyPadded, valuePadded⟩
    have first : ':' ∉ key := by
      rw [keyPadded.mem_iff (by decide)]
      exact wellFormed.keyApart.2
    have named : tag.key.toList ≠ [] := mt String.toList_eq_nil_iff.1 wellFormed.named
    rw [ofSegment?_append first, Text.trim_eq_iff.2 ⟨wellFormed.key, keyPadded⟩,
      Text.trim_eq_iff.2 ⟨wellFormed.value, valuePadded⟩, if_neg (mt List.isEmpty_iff.1 named),
      String.ofList_toList, String.ofList_toList]

theorem spells_text (tag : Tag) : tag.Spells tag.text.toList :=
  ⟨tag.key.toList, tag.value.toList, toList_text tag, .refl _, .refl _⟩

theorem WellFormed.comma_notMem_text {tag : Tag} (wellFormed : tag.WellFormed) :
    ',' ∉ tag.text.toList := by
  rw [toList_text, List.mem_append, List.mem_cons]
  rintro (inKey | colon | inValue)
  · exact wellFormed.keyApart.1 inKey
  · cases colon
  · exact wellFormed.valueApart inValue

/-! ## Lists of tags -/

/-- What is read on either side of a comma does not depend on the other side. -/
theorem parseList_append (raw more : String) :
    parseList (raw ++ "," ++ more) = parseList raw ++ parseList more := by
  unfold parseList
  have cut : (raw ++ "," ++ more).toList = raw.toList ++ ',' :: more.toList := by
    rw [String.toList_append, String.toList_append, List.append_assoc]
    rfl
  rw [cut, splitAt_eq_splitOn, List.splitOn_append_cons_self, List.filterMap_append,
    ← splitAt_eq_splitOn, ← splitAt_eq_splitOn]

/-- A text without commas is one segment. -/
theorem parseList_segment {segment : String} (apart : ',' ∉ segment.toList) :
    parseList segment = (ofSegment? segment.toList).toList := by
  rw [parseList, splitAt_eq_splitOn, List.splitOn_eq_singleton apart, List.filterMap_cons,
    List.filterMap_nil]
  cases ofSegment? segment.toList <;> rfl

theorem wellFormed_of_mem_parseList {raw : String} {tag : Tag} (member : tag ∈ parseList raw) :
    tag.WellFormed := by
  obtain ⟨segment, piece, read⟩ := List.mem_filterMap.1 member
  exact ((ofSegment?_eq_some_iff (separator_notMem_of_mem_splitAt piece)).1 read).1

/-- Nothing is lost of tags that are well formed. -/
theorem parseList_listText {tags : List Tag} (wellFormed : ∀ tag ∈ tags, tag.WellFormed) :
    parseList (listText tags) = tags := by
  rcases eq_or_ne tags [] with rfl | notEmpty
  · rfl
  · have segments : (listText tags).toList = [','].intercalate (tags.map (·.text.toList)) := by
      rw [listText, String.toList_intercalate, List.map_map]
      rfl
    have apart : ∀ segment ∈ tags.map (·.text.toList), ',' ∉ segment := by
      intro segment member
      obtain ⟨tag, inside, rfl⟩ := List.mem_map.1 member
      exact (wellFormed tag inside).comma_notMem_text
    have read : ∀ tag ∈ tags, ofSegment? tag.text.toList = some tag := by
      intro tag inside
      have sound := wellFormed tag inside
      exact (ofSegment?_eq_some_iff sound.comma_notMem_text).2 ⟨sound, spells_text tag⟩
    rw [parseList, segments, splitAt_eq_splitOn,
      List.splitOn_intercalate ',' apart (mt List.map_eq_nil_iff.1 notEmpty), List.filterMap_map]
    exact (List.filterMap_congr read).trans List.filterMap_some

/-- A segment that nothing is read from makes no difference to the texts around it. -/
theorem parseList_skip (raw : String) {segment : String} (more : String)
    (unread : parseList segment = []) :
    parseList (raw ++ "," ++ segment ++ "," ++ more) = parseList raw ++ parseList more := by
  rw [parseList_append, parseList_append, unread, List.append_nil]

theorem malformed_iff {segment : String} (apart : ',' ∉ segment.toList) :
    Malformed segment.toList ↔ parseList segment = [] := by
  rw [parseList_segment apart, Option.toList_eq_nil_iff, ofSegment?_eq_none_iff]

/-- **Reading and writing are inverse on tags that are well formed.**  Take any texts, any list of
tags and any segment, which is a text without commas.  All tags that are read are well formed.  A
list of tags that is written, key and value with a colon between them and the tags with commas
between them, is read back, all tags in their order, if, and only if, the tags are well formed.  So
it changes nothing to write what has been read and to read it again.

Of two texts with a comma between them, the tags of the one are read and then those of the other.
Nothing is read from a segment if, and only if, it is malformed, and then it neither takes anything
from the texts around it nor adds anything to them. -/
theorem parsing_inverts_writing (raw more segment : String) (tags : List Tag) :
    (∀ tag ∈ parseList raw, tag.WellFormed) ∧
    (parseList (listText tags) = tags ↔ ∀ tag ∈ tags, tag.WellFormed) ∧
    parseList (listText (parseList raw)) = parseList raw ∧
    parseList (raw ++ "," ++ more) = parseList raw ++ parseList more ∧
    (',' ∉ segment.toList →
      (Malformed segment.toList ↔ parseList segment = []) ∧
      (Malformed segment.toList →
        parseList (raw ++ "," ++ segment ++ "," ++ more) = parseList raw ++ parseList more)) := by
  have readable (text : String) : ∀ tag ∈ parseList text, tag.WellFormed := by
    intro tag member
    exact wellFormed_of_mem_parseList member
  refine ⟨readable raw, ⟨?_, parseList_listText⟩, parseList_listText (readable raw),
    parseList_append raw more, ?_⟩
  · intro unchanged
    rw [← unchanged]
    exact readable (listText tags)
  · intro apart
    refine ⟨malformed_iff apart, fun malformed => ?_⟩
    exact parseList_skip raw more ((malformed_iff apart).1 malformed)

/-- A value holds a colon, another is empty, and around them stand blanks of several kinds, an empty
segment and one without a colon.  A further segment has no key. -/
theorem parsing_inverts_writing_padded :
    let raw := " zone : eu:west ,broken,,\u3000strategy\t:"
    let more := "pod:*"
    let segment := "\u00a0: common"
    let tags : List Tag := [⟨"zone", "eu:west"⟩, ⟨"strategy", ""⟩]
    (∀ tag ∈ tags, tag.WellFormed) ∧
      parseList "zone:eu:west,strategy:" = tags ∧
      parseList (listText (parseList raw)) = tags ∧
      parseList (raw ++ "," ++ more) = tags ++ [⟨"pod", "*"⟩] ∧
      parseList segment = [] ∧
      parseList (raw ++ "," ++ segment ++ "," ++ more) = tags ++ [⟨"pod", "*"⟩] := by
  intro raw more segment tags
  obtain ⟨readable, inverse, again, appends, skips⟩ :=
    parsing_inverts_writing raw more segment tags
  have first : parseList raw = tags := by decide
  have second : parseList more = [⟨"pod", "*"⟩] := by decide
  rw [first] at readable again appends skips
  rw [second] at appends skips
  obtain ⟨exactly, skipped⟩ := skips (by decide)
  -- There is nothing but a blank in front of the colon.
  have malformed : Malformed segment.toList := ofSegment?_eq_none_iff.1 (by decide)
  have written : listText tags = "zone:eu:west,strategy:" := by decide
  refine ⟨readable, ?_, ?_, appends, exactly.1 malformed, skipped malformed⟩
  · rw [← written]
    exact inverse.2 (by decide)
  · rw [first]
    exact again

end Tag

end WorkspaceVolumes
