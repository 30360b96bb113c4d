import Mathlib.Algebra.Group.Nat.Defs
import Mathlib.Data.Bool.AllAny
import Mathlib.Data.List.Basic
import WorkspaceVolumes.Yaml.Lexeme

/-!
# Written scalars are read back

Each style in which the printer writes a string has a reader.  This module proves that the
reader undoes the writing, whatever the string is and whatever comes behind it.

**One character after the other.**  The printer and the readers both go through the string
from its start.  Each proof says what a reader that has passed some of the characters does
with the next one, and the rest is induction on the string.

**Where a scalar ends.**  Quotes end a quoted scalar.  A plain scalar and a literal block end
only where a line begins that is indented less, so what follows them is part of the
statements: a line that is indented by so much and goes on with something visible
(`startsContent`).

**What a style relies on.**  Not every string can be written in every style.  What a reader
relies on is stated as `StandsPlain` and `StandsSingleQuoted`.

## Main definitions

* `StandsPlain`, `StandsSingleQuoted`: the strings that can be written in a style.
* `BeforeQuoted`: what holds before each character of a single-quoted scalar.
* `BlockLines.next`: the lines of a literal block, character by character.

## Main statements

* `plainScalar_append`, `singleQuotedScalar_append`, `doubleQuotedScalar_append`,
  `blockScalar_append`: written scalars are read back.
-/

namespace WorkspaceVolumes.Yaml

/-! ## Positions -/

namespace Position

@[simp] theorem afterAll_nil (position : Position) : position.afterAll [] = position := rfl

@[simp] theorem afterAll_cons (position : Position) (c : Char) (rest : List Char) :
    position.afterAll (c :: rest) = (position.after c).afterAll rest := rfl

@[simp] theorem afterAll_append (position : Position) (first second : List Char) :
    position.afterAll (first ++ second) = (position.afterAll first).afterAll second :=
  List.foldl_append

/-- Within a line the column counts the characters. -/
theorem column_afterAll {text : List Char} (oneLine : ∀ c ∈ text, isBreak c = false)
    (position : Position) : (position.afterAll text).column = position.column + text.length := by
  induction text generalizing position with
  | nil => rfl
  | cons c rest ih =>
    have ⟨here, later⟩ := List.forall_mem_cons.1 oneLine
    rw [afterAll_cons, ih later, List.length_cons, after, if_neg (by simp [here])]
    exact Nat.add_right_comm ..

theorem column_after_pos (position : Position) {c : Char} (noBreak : isBreak c = false) :
    0 < (position.after c).column := by
  rw [after, noBreak]
  exact Nat.succ_pos _

theorem column_afterAll_pos {position : Position} (inside : 0 < position.column)
    {text : List Char} (oneLine : ∀ c ∈ text, isBreak c = false) :
    0 < (position.afterAll text).column := by
  rw [column_afterAll oneLine]
  exact Nat.add_pos_left inside _

end Position

theorem isBreak_of_mem_spaces {count : Nat} {c : Char} (member : c ∈ spaces count) :
    isBreak c = false := by
  rw [List.eq_of_mem_replicate member]
  rfl

@[simp] theorem spaces_succ (count : Nat) : spaces (count + 1) = ' ' :: spaces count := rfl

@[simp] theorem spaces_zero : spaces 0 = [] := rfl

@[simp] theorem column_afterAll_spaces (position : Position) (count : Nat) :
    (position.afterAll (spaces count)).column = position.column + count := by
  rw [Position.column_afterAll fun _ => isBreak_of_mem_spaces, spaces, List.length_replicate]

@[simp] theorem column_after_of_isBreak (position : Position) {c : Char} (ends : isBreak c) :
    (position.after c).column = 0 := by
  rw [Position.after, if_pos ends]

/-! ## What follows a scalar -/

/-- Whether what comes next is the end or a visible character that opens no comment. -/
def startsContent : List Char → Bool
  | [] => true
  | c :: _ => !isSpaceOrTab c && !isBreak c && c ≠ '#' && c ≠ byteOrderMark

theorem of_startsContent {c : Char} {rest : List Char} (begins : startsContent (c :: rest)) :
    isSpaceOrTab c = false ∧ isBreak c = false ∧ c ≠ '#' ∧ c ≠ byteOrderMark := by
  simpa [startsContent, and_assoc] using begins

/-! ## Plain scalars -/

/-- A character that is printed as it is, breaks aside, is no tab. -/
theorem ne_tab_of_isPrintable {c : Char} (printable : isPrintable c) : c ≠ '\t' := by
  rintro rfl
  exact absurd printable (by decide)

theorem isSpaceOrTab_of_isBreak {c : Char} (ends : isBreak c) : isSpaceOrTab c = false := by
  simp only [isBreak, Bool.or_eq_true, decide_eq_true_iff] at ends
  rcases ends with (((rfl | rfl) | rfl) | rfl) | rfl <;> rfl

namespace Gap

/-- A blank within a line is kept. -/
theorem folded_addBlank {gap : Gap} (inLine : gap.isMultiline = false) (c : Char) :
    (gap.addBlank c).folded = c :: gap.folded := by
  cases gap <;> first | rfl | cases inLine

theorem isMultiline_addBlank (gap : Gap) (c : Char) :
    (gap.addBlank c).isMultiline = gap.isMultiline := by
  cases gap <;> rfl

theorem isOpen_addBlank (gap : Gap) (c : Char) : (gap.addBlank c).isOpen = true := by
  cases gap <;> rfl

end Gap

theorem isSpaceOrTab_eq_false {c : Char} (printable : isPrintable c) (visible : c ≠ ' ') :
    isSpaceOrTab c = false := by
  simp [isSpaceOrTab, visible, ne_tab_of_isPrintable printable]

section

variable {limit : Nat} {gap : Gap} {read rest : List Char} {position : Position}

theorem plainRest_space : plainRest false limit gap read position (' ' :: rest) =
    plainRest false limit (gap.addBlank ' ') read (position.after ' ') rest := by
  rw [plainRest, if_pos (by decide), if_neg (by simp)]

theorem plainRest_lineFeed : plainRest false limit gap read position ('\n' :: rest) =
    plainRest false limit (gap.addBreak '\n') read (position.after '\n') rest := by
  rw [plainRest, if_neg (by decide), if_pos (by decide)]

/-- A visible character is part of a plain scalar, unless it is an indicator there. -/
theorem plainRest_visible {c : Char} (noBlank : isSpaceOrTab c = false)
    (noBreak : isBreak c = false) (noColon : (c = ':' && startsBlankOrEnd rest) = false)
    (noComment : (c = '#' && gap.isOpen) = false) (indented : limit ≤ position.column)
    (inside : 0 < position.column) :
    plainRest false limit gap read position (c :: rest) =
      plainRest false limit .none (c :: (gap.folded ++ read)) (position.after c) rest := by
  have goesOn : (gap.isOpen && ((!false && position.column < limit) || c = '#' ||
      (position.column = 0 && startsMarker (c :: rest)))) = false := by
    rw [decide_eq_false (Nat.not_lt.2 indented), decide_eq_false (Nat.ne_of_gt inside)]
    simpa [Bool.and_comm] using noComment
  rw [plainRest, noBlank, noBreak, goesOn, endsPlain, noColon]
  rfl

/-- The reader of a plain scalar passes what can stand plain. -/
theorem plainRest_append (gap : Gap) {text : List Char} (nonempty : text ≠ [])
    (ends : text.getLast?.any isSpace = false) (printable : ∀ c ∈ text, isPrintable c)
    (oneLine : ∀ c ∈ text, isBreak c = false)
    (indicates : holdsIndicator gap.isOpen text = false) (inLine : gap.isMultiline = false)
    (indented : limit ≤ position.column) (inside : 0 < position.column) :
    plainRest false limit gap read position (text ++ rest) =
      plainRest false limit .none (text.reverse ++ (gap.folded ++ read))
        (position.afterAll text) rest := by
  induction text generalizing gap read position with
  | nil => exact absurd rfl nonempty
  | cons c text ih =>
    obtain ⟨isPrintable, restPrintable⟩ := List.forall_mem_cons.1 printable
    obtain ⟨noBreak, restOneLine⟩ := List.forall_mem_cons.1 oneLine
    have column : (position.after c).column = position.column + 1 :=
      Position.column_afterAll (List.forall_mem_singleton.2 noBreak) position
    rw [holdsIndicator, Bool.or_eq_false_iff, Bool.or_eq_false_iff] at indicates
    obtain ⟨⟨noColon, noComment⟩, indicates⟩ := indicates
    by_cases blank : c = ' '
    case pos =>
      subst blank
      -- Only the end could follow a blank, and a plain scalar does not end in one.
      obtain ⟨d, text, rfl⟩ : ∃ d more, text = d :: more := by
        cases text with
        | nil => exact absurd ends (by decide)
        | cons d more => exact ⟨d, more, rfl⟩
      rw [List.cons_append, plainRest_space, ih _ (List.cons_ne_nil _ _) ends restPrintable
        restOneLine (gap.isOpen_addBlank ' ' ▸ indicates)
        (gap.isMultiline_addBlank ' ' ▸ inLine) (by omega) (by omega), Gap.folded_addBlank inLine]
      simp
    case neg =>
      have noBlank := isSpaceOrTab_eq_false isPrintable blank
      have notFirst : (c = ':' && startsBlankOrEnd (text ++ rest)) = false := by
        cases text with
        | nil =>
          rw [startsBlankOrEnd, Bool.and_true] at noColon
          rw [noColon, Bool.false_and]
        | cons d more => exact noColon
      rw [List.cons_append, plainRest_visible noBlank noBreak notFirst noComment indented inside]
      cases text with
      | nil => rfl
      | cons d more =>
        rw [noBlank, noBreak] at indicates
        rw [ih .none (List.cons_ne_nil _ _) ends restPrintable restOneLine indicates rfl
          (by omega) (by omega)]
        simp [Gap.folded]

/-- A plain scalar ends where a line begins that is indented less than its own. -/
theorem plainRest_lines {first : Option Char} {more : List Char} {count : Nat}
    {content : List Char} (begins : startsContent content)
    (outside : position.column + count < limit) :
    plainRest false limit (.lines first more) read position (spaces count ++ content) =
      .ok ⟨read.reverse, ⟨position.afterAll (spaces count), content⟩, true⟩ := by
  induction count generalizing position with
  | zero =>
    cases content with
    | nil => rfl
    | cons c rest =>
      obtain ⟨noBlank, noBreak, -⟩ := of_startsContent begins
      have endsHere : (decide (position.column < limit)) = true := decide_eq_true outside
      rw [spaces_zero, List.nil_append, plainRest, noBlank, noBreak, endsHere]
      rfl
  | succ count ih =>
    have column : (position.after ' ').column = position.column + 1 := rfl
    rw [spaces_succ, List.cons_append, plainRest_space]
    exact ih (by omega)

/-- A plain scalar ends at a colon that ends a key. -/
theorem plainRest_colon (ends : startsBlankOrEnd rest) :
    plainRest false limit .none read position (':' :: rest) =
      .ok ⟨read.reverse, ⟨position, ':' :: rest⟩, false⟩ := by
  rw [plainRest, endsPlain, ends]
  rfl

end

/-- A string that can be written as it is. -/
structure StandsPlain (text : List Char) : Prop where
  nonempty : text ≠ []
  oneLine : ∀ c ∈ text, isBreak c = false
  printable : ∀ c ∈ text, isPrintable c
  noMarker : opensAsMarker text = false
  noIndicator : opensAsIndicator text = false
  holdsNone : holdsIndicator false text.tail = false
  starts : text.head?.any isSpace = false
  ends : text.getLast?.any isSpace = false

theorem plainScalar_append {limit : Nat} {text : List Char} (stands : StandsPlain text)
    {position : Position} (indented : limit ≤ position.column + 1) (rest : List Char) :
    plainScalar false limit ⟨position, text ++ rest⟩ =
      plainRest false limit .none text.reverse (position.afterAll text) rest := by
  obtain ⟨nonempty, oneLine, printable, -, -, holdsNone, -, ends⟩ := stands
  cases text with
  | nil => exact absurd rfl nonempty
  | cons c text =>
    cases text with
    | nil => rfl
    | cons d more =>
      have column : (position.after c).column = position.column + 1 :=
        Position.column_afterAll (List.forall_mem_singleton.2 (List.forall_mem_cons.1 oneLine).1)
          position
      change plainRest false limit .none [c] (position.after c) (d :: more ++ rest) = _
      rw [plainRest_append .none (List.cons_ne_nil d more) ends (List.forall_mem_cons.1 printable).2
        (List.forall_mem_cons.1 oneLine).2 holdsNone rfl (by omega) (by omega)]
      simp [Gap.folded]

/-! ## Single quotes -/

/-- What is written in front of the first visible character of a line. -/
def lineLead (indent : Nat) (afterBreak : Bool) : List Char :=
  if afterBreak then spaces indent else []

namespace Gap

/-- A gap the first break of which, if there is one, is kept. -/
def Keeps : Gap → Prop
  | .lines first _ => ∃ c, first = some c ∧ c ≠ '\n'
  | _ => True

/-- Whether a gap is one of blanks. -/
def isBlank : Gap → Bool
  | .blanks _ => true
  | _ => false

theorem folded_lines {c : Char} (keeps : c ≠ '\n') (more : List Char) :
    (lines (some c) more).folded = more ++ [c] := by
  unfold folded
  split <;> simp_all

/-- A break that is kept continues a gap that has only such. -/
theorem folded_addBreak {gap : Gap} (kept : gap.Keeps) (noBlank : gap.isBlank = false) {c : Char}
    (keeps : c ≠ '\n') :
    (gap.addBreak c).folded = c :: gap.folded ∧ (gap.addBreak c).Keeps := by
  cases gap with
  | none => exact ⟨folded_lines keeps [], c, rfl, keeps⟩
  | blanks => cases noBlank
  | lines first more =>
    obtain ⟨d, rfl, isKept⟩ := kept
    refine ⟨?_, d, rfl, isKept⟩
    rw [addBreak, folded_lines isKept, folded_lines isKept]
    rfl

theorem isMultiline_addBreak (gap : Gap) (c : Char) : (gap.addBreak c).isMultiline = true := by
  cases gap <;> rfl

end Gap

section

variable {gap : Gap} {read rest : List Char} {position : Position} {indent : Nat}

theorem singleQuotedRest_space : singleQuotedRest gap read position (' ' :: rest) =
    singleQuotedRest (gap.addBlank ' ') read (position.after ' ') rest := by
  rw [singleQuotedRest.eq_def]
  rfl

theorem singleQuotedRest_break {c : Char} (ends : isBreak c) :
    singleQuotedRest gap read position (c :: rest) =
      singleQuotedRest (gap.addBreak c) read (position.after c) rest := by
  rw [singleQuotedRest.eq_def]
  simp only [isSpaceOrTab_of_isBreak ends, ends]
  rfl

theorem singleQuotedRest_lead {afterBreak : Bool} (same : gap.isMultiline = afterBreak)
    (text : List Char) :
    singleQuotedRest gap read position (lineLead indent afterBreak ++ text) =
      singleQuotedRest gap read (position.afterAll (lineLead indent afterBreak)) text := by
  subst same
  cases gap with
  | none | blanks => rfl
  | lines first more =>
    rw [Gap.isMultiline, lineLead, if_pos rfl]
    induction indent generalizing position with
    | zero => rfl
    | succ indent ih =>
      rw [spaces_succ, List.cons_append, singleQuotedRest_space]
      exact ih

theorem column_afterAll_lead (wide : 0 < indent) {afterBreak : Bool}
    (inside : afterBreak = false → 0 < position.column) :
    0 < (position.afterAll (lineLead indent afterBreak)).column := by
  cases afterBreak with
  | true =>
    rw [lineLead, if_pos rfl, column_afterAll_spaces]
    omega
  | false => exact inside rfl

/-- No document starts within a line. -/
theorem noMarker_of_inside (gap : Gap) (inside : 0 < position.column) (text : List Char) :
    (gap.isOpen && position.column = 0 && startsMarker text) = false := by
  rw [decide_eq_false (Nat.ne_of_gt inside), Bool.and_false, Bool.false_and]

/-- A visible character in single quotes, with the quotes doubled. -/
theorem singleQuotedRest_visible {c : Char} (noBlank : isSpaceOrTab c = false)
    (noBreak : isBreak c = false) (inside : 0 < position.column) :
    singleQuotedRest gap read position ((if c = '\'' then ['\'', '\''] else [c]) ++ rest) =
      singleQuotedRest .none (c :: (gap.folded ++ read))
        (position.afterAll (if c = '\'' then ['\'', '\''] else [c])) rest := by
  split
  case isTrue isQuote =>
    subst isQuote
    conv_lhs => rw [singleQuotedRest.eq_def]
    simp only [List.cons_append, noBlank, noBreak, noMarker_of_inside gap inside]
    rfl
  case isFalse other =>
    conv_lhs => rw [singleQuotedRest.eq_def]
    simp only [List.cons_append, noBlank, noBreak, noMarker_of_inside gap inside, other]
    rfl

theorem singleQuotedRest_quote (inside : 0 < position.column) (ends : rest.head? ≠ some '\'') :
    singleQuotedRest gap read position ('\'' :: rest) =
      .ok ((gap.folded ++ read).reverse, ⟨position.after '\'', rest⟩) := by
  rw [singleQuotedRest.eq_def]
  simp only [noMarker_of_inside gap inside]
  cases rest with
  | nil => rfl
  | cons c rest =>
    have other : c ≠ '\'' := by simpa using ends
    simp [isSpaceOrTab, isBreak, other]

theorem singleQuotedBody_break {c : Char} (ends : isBreak c) (kept : c ≠ '\n') (afterBreak : Bool)
    (text : List Char) : singleQuotedBody indent afterBreak (c :: text) =
      c :: singleQuotedBody indent true text := by
  rw [singleQuotedBody, if_pos ends, if_neg (by simp [kept])]
  rfl

theorem singleQuotedBody_char {c : Char} (noBreak : isBreak c = false) (afterBreak : Bool)
    (text : List Char) : singleQuotedBody indent afterBreak (c :: text) =
      lineLead indent afterBreak ++ ((if c = '\'' then ['\'', '\''] else [c]) ++
        singleQuotedBody indent false text) := by
  rw [singleQuotedBody, noBreak, if_neg Bool.false_ne_true, List.append_assoc]
  rfl

theorem of_hasNeighbours {first second : Char → Bool} {c : Char} {text : List Char}
    (none : hasNeighbours first second (c :: text) = false) :
    (first c = true → text.head?.any second = false) ∧
      hasNeighbours first second text = false := by
  cases text with
  | nil => exact ⟨fun _ => rfl, rfl⟩
  | cons d text =>
    obtain ⟨here, later⟩ := Bool.or_eq_false_iff.1 none
    refine ⟨fun isFirst => ?_, later⟩
    rwa [isFirst, Bool.true_and] at here

/-- A string that can be written in single quotes. -/
structure StandsSingleQuoted (text : List Char) : Prop where
  printable : ∀ c ∈ text, isPrintable c
  noLineFeed : '\n' ∉ text
  spaceBreak : hasNeighbours isSpace isBreak text = false
  breakSpace : hasNeighbours isBreak isSpace text = false

theorem StandsSingleQuoted.tail {c : Char} {text : List Char}
    (stands : StandsSingleQuoted (c :: text)) : StandsSingleQuoted text where
  printable := (List.forall_mem_cons.1 stands.printable).2
  noLineFeed := mt (List.mem_cons_of_mem c) stands.noLineFeed
  spaceBreak := (of_hasNeighbours stands.spaceBreak).2
  breakSpace := (of_hasNeighbours stands.breakSpace).2

/-- What holds before each character of a single-quoted scalar: the rest of the string can be
written in quotes, also behind the blanks or breaks that have just been read. -/
structure BeforeQuoted (gap : Gap) (afterBreak : Bool) (position : Position) (text : List Char) :
    Prop where
  stands : StandsSingleQuoted text
  same : gap.isMultiline = afterBreak
  kept : gap.Keeps
  behindSpace : gap.isBlank = true → text.head?.any isBreak = false
  behindBreak : afterBreak = true → text.head?.any isSpace = false
  inside : afterBreak = false → 0 < position.column

namespace BeforeQuoted

variable {afterBreak : Bool} {c : Char} {text : List Char}

theorem pastBreak (before : BeforeQuoted gap afterBreak position (c :: text)) (ends : isBreak c) :
    c ≠ '\n' ∧ (gap.addBreak c).folded = c :: gap.folded ∧
      BeforeQuoted (gap.addBreak c) true (position.after c) text := by
  have keeps : c ≠ '\n' := by
    rintro rfl
    exact before.stands.noLineFeed List.mem_cons_self
  have noBlank : gap.isBlank = false :=
    Bool.eq_false_iff.2 fun blank => absurd ends (by simpa using before.behindSpace blank)
  obtain ⟨folded, isKept⟩ := Gap.folded_addBreak before.kept noBlank keeps
  refine ⟨keeps, folded, before.stands.tail, gap.isMultiline_addBreak c, isKept, ?_,
    fun _ => (of_hasNeighbours before.stands.breakSpace).1 ends, nofun⟩
  cases gap <;> nofun

theorem pastSpace (before : BeforeQuoted gap afterBreak position (' ' :: text)) :
    afterBreak = false ∧ BeforeQuoted (gap.addBlank ' ') false (position.after ' ') text := by
  obtain rfl : afterBreak = false :=
    eq_false_of_ne_true fun broken => Bool.noConfusion (before.behindBreak broken)
  have isKept : (gap.addBlank ' ').Keeps := by
    cases gap with
    | none | blanks => trivial
    | lines => exact before.kept
  exact ⟨rfl, before.stands.tail, (gap.isMultiline_addBlank ' ').trans before.same, isKept,
    fun _ => (of_hasNeighbours before.stands.spaceBreak).1 rfl, nofun, fun _ => Nat.succ_pos _⟩

theorem pastVisible (before : BeforeQuoted gap afterBreak position (c :: text)) (wide : 0 < indent)
    (noBreak : isBreak c = false) :
    BeforeQuoted .none false ((position.afterAll (lineLead indent afterBreak)).afterAll
      (if c = '\'' then ['\'', '\''] else [c])) text where
  stands := before.stands.tail
  same := rfl
  kept := trivial
  behindSpace := nofun
  behindBreak := nofun
  inside _ := by
    have lead := column_afterAll_lead wide before.inside
    rw [Position.column_afterAll]
    · omega
    · split
      · exact List.forall_mem_cons.2 ⟨rfl, List.forall_mem_singleton.2 rfl⟩
      · exact List.forall_mem_singleton.2 noBreak

end BeforeQuoted

/-- The reader of a single-quoted scalar undoes its writing, from any place of it on. -/
theorem singleQuotedRest_body (wide : 0 < indent) {afterBreak : Bool} {text : List Char}
    (before : BeforeQuoted gap afterBreak position text) (ends : rest.head? ≠ some '\'') :
    singleQuotedRest gap read position (singleQuotedBody indent afterBreak text ++ '\'' :: rest) =
      .ok ((text.reverse ++ (gap.folded ++ read)).reverse,
        ⟨position.afterAll (singleQuotedBody indent afterBreak text ++ ['\'']), rest⟩) := by
  induction text generalizing gap afterBreak read position with
  | nil =>
    change singleQuotedRest gap read position (lineLead indent afterBreak ++ _) = _
    rw [singleQuotedRest_lead before.same,
      singleQuotedRest_quote (column_afterAll_lead wide before.inside) ends,
      Position.afterAll_append]
    rfl
  | cons c text ih =>
    by_cases isEnd : isBreak c
    case pos =>
      obtain ⟨keeps, folded, behind⟩ := before.pastBreak isEnd
      rw [singleQuotedBody_break isEnd keeps, List.cons_append, singleQuotedRest_break isEnd,
        ih behind, folded]
      simp
    case neg =>
      have noBreak := eq_false_of_ne_true isEnd
      by_cases blank : c = ' '
      case pos =>
        subst blank
        obtain ⟨rfl, behind⟩ := before.pastSpace
        rw [singleQuotedBody_char noBreak]
        change singleQuotedRest gap read position
          (' ' :: (singleQuotedBody indent false text ++ '\'' :: rest)) = _
        rw [singleQuotedRest_space, ih behind, Gap.folded_addBlank before.same]
        simp
        rfl
      case neg =>
        have noBlank := isSpaceOrTab_eq_false (before.stands.printable c List.mem_cons_self) blank
        rw [singleQuotedBody_char noBreak, List.append_assoc, List.append_assoc,
          singleQuotedRest_lead before.same, singleQuotedRest_visible noBlank noBreak
            (column_afterAll_lead wide before.inside), ih (before.pastVisible wide noBreak)]
        simp [Gap.folded]

end

theorem singleQuotedScalar_append {indent : Nat} (wide : 0 < indent) {text : List Char}
    (stands : StandsSingleQuoted text) {rest : List Char} (ends : rest.head? ≠ some '\'')
    (position : Position) :
    singleQuotedScalar ⟨position, singleQuoted indent text ++ rest⟩ =
      .ok (text, ⟨position.afterAll (singleQuoted indent text), rest⟩) := by
  have further : 0 < (position.after '\'').column := Nat.succ_pos _
  change singleQuotedRest .none [] (position.after '\'')
    (singleQuotedBody indent false text ++ ['\''] ++ rest) = _
  rw [List.append_assoc]
  have before : BeforeQuoted .none false (position.after '\'') text :=
    ⟨stands, rfl, trivial, nofun, nofun, fun _ => further⟩
  refine (singleQuotedRest_body wide before ends).trans ?_
  simp [Gap.folded, singleQuoted]

/-! ## Double quotes -/

section

variable {gap : Gap} {read rest : List Char} {position : Position}

theorem doubleQuotedRest_space : doubleQuotedRest (.text gap) read position (' ' :: rest) =
    doubleQuotedRest (.text (gap.addBlank ' ')) read (position.after ' ') rest := by
  rw [doubleQuotedRest]
  rfl

theorem doubleQuotedRest_visible {c : Char} (noBlank : isSpaceOrTab c = false)
    (noBreak : isBreak c = false) (noQuote : c ≠ '"') (noEscape : c ≠ '\\')
    (inside : 0 < position.column) :
    doubleQuotedRest (.text gap) read position (c :: rest) =
      doubleQuotedRest (.text .none) (c :: (gap.folded ++ read)) (position.after c) rest := by
  rw [doubleQuotedRest, noBlank, noBreak, noMarker_of_inside gap inside, if_neg noQuote,
    if_neg noEscape]
  rfl

theorem doubleQuotedRest_quote (inside : 0 < position.column) :
    doubleQuotedRest (.text gap) read position ('"' :: rest) =
      .ok ((gap.folded ++ read).reverse, ⟨position.after '"', rest⟩) := by
  rw [doubleQuotedRest, noMarker_of_inside gap inside]
  rfl

theorem doubleQuotedRest_backslash (inside : 0 < position.column) :
    doubleQuotedRest (.text gap) read position ('\\' :: rest) =
      doubleQuotedRest .escape (gap.folded ++ read) (position.after '\\') rest := by
  rw [doubleQuotedRest, noMarker_of_inside gap inside]
  rfl

theorem doubleQuotedRest_letter {letter c : Char} (noBreak : isBreak letter = false)
    (means : escapedChar? letter = some c) :
    doubleQuotedRest .escape read position (letter :: rest) =
      doubleQuotedRest (.text .none) (c :: read) (position.after letter) rest := by
  rw [doubleQuotedRest, noBreak, means]
  rfl

theorem doubleQuotedRest_code {letter : Char} {count : Nat} (noBreak : isBreak letter = false)
    (meansNone : escapedChar? letter = none) (announces : escapeLength? letter = some count) :
    doubleQuotedRest .escape read position (letter :: rest) =
      doubleQuotedRest (.digits count 0) read (position.after letter) rest := by
  rw [doubleQuotedRest, noBreak, meansNone, announces]
  rfl

theorem digitValue_capitalHex :
    ∀ digit < 16, Text.digitValue (Text.capitalHex.getD digit '0') = digit := by
  decide

theorem charOfCode?_toNat (c : Char) : charOfCode? c.toNat = some c := by
  rw [charOfCode?, dif_pos (show c.toNat.isValidChar from c.valid)]
  rfl

/-- The digits of a number, the last one last. -/
theorem fixedDigits_succ (count number : Nat) :
    Text.fixedDigits Text.capitalHex (count + 1) number =
      Text.fixedDigits Text.capitalHex count (number / 16) ++
        [Text.capitalHex.getD (number % 16) '0'] := rfl

/-- A digit of an escape behind which there are more. -/
theorem doubleQuotedRest_digit {left value digit : Nat} (more : 0 < left) (isDigit : digit < 16) :
    doubleQuotedRest (.digits (left + 1) value) read position
        (Text.capitalHex.getD digit '0' :: rest) =
      doubleQuotedRest (.digits left (16 * value + digit)) read
        (position.after (Text.capitalHex.getD digit '0')) rest := by
  rw [doubleQuotedRest, digitValue_capitalHex digit isDigit, if_pos isDigit, if_neg (by omega)]
  rfl

/-- The last digit of an escape completes the character. -/
theorem doubleQuotedRest_lastDigit {value digit : Nat} {c : Char} (isDigit : digit < 16)
    (isCode : 16 * value + digit = c.toNat) :
    doubleQuotedRest (.digits 1 value) read position (Text.capitalHex.getD digit '0' :: rest) =
      doubleQuotedRest (.text .none) (c :: read)
        (position.after (Text.capitalHex.getD digit '0')) rest := by
  rw [doubleQuotedRest, digitValue_capitalHex digit isDigit, if_pos isDigit, isCode]
  dsimp only
  rw [charOfCode?_toNat]
  rfl

/-- The digits of an escape that come before others add up to the number that they write. -/
theorem doubleQuotedRest_fixedDigits {count left number : Nat} (more : 0 < left)
    (fits : number < 16 ^ count) :
    doubleQuotedRest (.digits (count + left) 0) read position
        (Text.fixedDigits Text.capitalHex count number ++ rest) =
      doubleQuotedRest (.digits left number) read
        (position.afterAll (Text.fixedDigits Text.capitalHex count number)) rest := by
  induction count generalizing left number rest with
  | zero =>
    obtain rfl : number = 0 := by omega
    rw [Nat.zero_add]
    rfl
  | succ count ih =>
    have smaller : number / 16 < 16 ^ count := by
      rw [Nat.pow_succ] at fits
      omega
    rw [fixedDigits_succ, List.append_assoc, Nat.succ_add_eq_add_succ,
      ih (Nat.succ_pos left) smaller, List.singleton_append,
      doubleQuotedRest_digit more (Nat.mod_lt _ (by decide)), Nat.div_add_mod,
      Position.afterAll_append]
    rfl

/-- An escape of a code point stands for its character. -/
theorem doubleQuotedRest_hex {count : Nat} {c : Char} (fits : c.toNat < 16 ^ (count + 1)) :
    doubleQuotedRest (.digits (count + 1) 0) read position
        (Text.fixedDigits Text.capitalHex (count + 1) c.toNat ++ rest) =
      doubleQuotedRest (.text .none) (c :: read)
        (position.afterAll (Text.fixedDigits Text.capitalHex (count + 1) c.toNat)) rest := by
  have smaller : c.toNat / 16 < 16 ^ count := by
    rw [Nat.pow_succ] at fits
    omega
  rw [fixedDigits_succ, List.append_assoc, doubleQuotedRest_fixedDigits Nat.one_pos smaller,
    List.singleton_append,
    doubleQuotedRest_lastDigit (Nat.mod_lt _ (by decide)) (Nat.div_add_mod ..),
    Position.afterAll_append]
  rfl

/-- What follows a backslash stands for the character that it was written for. -/
theorem doubleQuotedRest_escapeOf (c : Char) :
    doubleQuotedRest .escape read position (escapeOf c ++ rest) =
      doubleQuotedRest (.text .none) (c :: read) (position.afterAll (escapeOf c)) rest := by
  have bound : c.toNat < 16 ^ 8 := by
    have valid : c.toNat.isValidChar := c.valid
    unfold Nat.isValidChar at valid
    omega
  unfold escapeOf
  split
  case h_15 =>
    dsimp only
    split_ifs
    · exact (doubleQuotedRest_code rfl rfl rfl).trans (doubleQuotedRest_hex (by omega))
    · exact (doubleQuotedRest_code rfl rfl rfl).trans (doubleQuotedRest_hex (by omega))
    · exact (doubleQuotedRest_code rfl rfl rfl).trans (doubleQuotedRest_hex bound)
  all_goals exact doubleQuotedRest_letter rfl rfl

theorem mem_capitalHex_of_mem_fixedDigits {count number : Nat} {c : Char}
    (member : c ∈ Text.fixedDigits Text.capitalHex count number) : c ∈ Text.capitalHex := by
  induction count generalizing number with
  | zero => cases member
  | succ count ih =>
    rw [fixedDigits_succ, List.mem_append, List.mem_singleton] at member
    rcases member with inFront | rfl
    · exact ih inFront
    · have inside : number % 16 < Text.capitalHex.length := Nat.mod_lt _ (by decide)
      rw [List.getD_eq_getElem?_getD, List.getElem?_eq_getElem inside, Option.getD_some]
      exact List.getElem_mem inside

/-- An escape is made of visible characters. -/
theorem visible_of_mem_escapeOf {c d : Char} (member : d ∈ escapeOf c) :
    isPrintable d ∧ isBreak d = false := by
  have digits : ∀ d ∈ Text.capitalHex, isPrintable d ∧ isBreak d = false :=
    List.all_iff_forall_prop.1 (by decide)
  unfold escapeOf at member
  split at member
  case h_15 =>
    dsimp only at member
    split_ifs at member
    all_goals
      rcases List.mem_cons.1 member with rfl | inside
      · decide
      · exact digits d (mem_capitalHex_of_mem_fixedDigits inside)
  all_goals
    obtain rfl := List.mem_singleton.1 member
    decide

/-- The reader of a double-quoted scalar undoes its writing. -/
theorem doubleQuotedRest_body (gap : Gap) (inLine : gap.isMultiline = false) (text : List Char)
    (inside : 0 < position.column) :
    doubleQuotedRest (.text gap) read position
        (text.flatMap (fun c => if isUnescaped c then [c] else '\\' :: escapeOf c) ++ '"' :: rest) =
      .ok ((text.reverse ++ (gap.folded ++ read)).reverse, ⟨position.afterAll
        (text.flatMap (fun c => if isUnescaped c then [c] else '\\' :: escapeOf c) ++ ['"']),
        rest⟩) := by
  induction text generalizing gap read position with
  | nil => exact doubleQuotedRest_quote inside
  | cons c text ih =>
    rw [List.flatMap_cons]
    split
    case isTrue stands =>
      obtain ⟨⟨⟨isPrintable, noBreak⟩, noQuote⟩, noEscape⟩ :
          ((isPrintable c ∧ isBreak c = false) ∧ c ≠ '"') ∧ c ≠ '\\' := by
        simpa [isUnescaped] using stands
      by_cases blank : c = ' '
      case pos =>
        subst blank
        rw [List.append_assoc, List.singleton_append, doubleQuotedRest_space,
          ih (gap.addBlank ' ') ((gap.isMultiline_addBlank ' ').trans inLine)
            (position.column_after_pos rfl), Gap.folded_addBlank inLine]
        simp
      case neg =>
        rw [List.append_assoc, List.singleton_append, doubleQuotedRest_visible
          (isSpaceOrTab_eq_false isPrintable blank) noBreak noQuote noEscape inside,
          ih .none rfl (position.column_after_pos noBreak)]
        simp [Gap.folded]
    case isFalse =>
      have escaped : 0 < ((position.after '\\').afterAll (escapeOf c)).column :=
        Position.column_afterAll_pos (position.column_after_pos rfl)
          fun _ member => (visible_of_mem_escapeOf member).2
      rw [List.append_assoc, List.cons_append, doubleQuotedRest_backslash inside,
        doubleQuotedRest_escapeOf, ih .none rfl escaped]
      simp [Gap.folded]

end

theorem doubleQuotedScalar_append (text rest : List Char) (position : Position) :
    doubleQuotedScalar ⟨position, doubleQuoted text ++ rest⟩ =
      .ok (text, ⟨position.afterAll (doubleQuoted text), rest⟩) := by
  have behindQuote : 0 < (position.after '"').column := position.column_after_pos rfl
  change doubleQuotedRest (.text .none) [] (position.after '"') (_ ++ ['"'] ++ rest) = _
  rw [List.append_assoc]
  refine (doubleQuotedRest_body .none rfl text behindQuote).trans ?_
  simp [Gap.folded, doubleQuoted]

/-! ## Literal blocks -/

namespace BlockLines

/-- No lines. -/
def start : BlockLines := ⟨[], none, [], false⟩

/-- What has been read of a literal block: the text so far, in reverse. -/
def whole (lines : BlockLines) : List Char :=
  lines.emptyLines ++ (lines.lastBreak.toList ++ lines.read)

/-- The lines that have been read when a further character of the text has, and whether that is
within a line. -/
def next (state : Bool × BlockLines) (c : Char) : Bool × BlockLines :=
  let (inLine, lines) := state
  if isBreak c then
    (false,
      if inLine then { lines with lastBreak := some c, emptyLines := [] }
      else { lines with emptyLines := c :: lines.emptyLines })
  else
    (true,
      if inLine then { lines with read := c :: lines.read }
      else
        let startsBlank := isSpaceOrTab c
        { read := c :: lines.joined true startsBlank, lastBreak := none, emptyLines := [],
          startsBlank })

theorem fst_next (state : Bool × BlockLines) (c : Char) : (next state c).1 = !isBreak c := by
  rw [next]
  cases isBreak c <;> rfl

/-- Whether a line that has begun is all that was read since the last break. -/
def Fits (state : Bool × BlockLines) : Prop :=
  state.1 = true → state.2.lastBreak = none ∧ state.2.emptyLines = []

theorem fits_next {state : Bool × BlockLines} (fits : Fits state) (c : Char) :
    Fits (next state c) ∧ (next state c).2.whole = c :: state.2.whole := by
  obtain ⟨inLine, read, lastBreak, emptyLines, startsBlank⟩ := state
  cases inLine with
  | true =>
    obtain ⟨rfl, rfl⟩ : lastBreak = none ∧ emptyLines = [] := fits rfl
    by_cases ends : isBreak c <;> simp [next, ends, Fits, whole]
  | false =>
    by_cases ends : isBreak c <;> simp [next, ends, Fits, whole, joined]

theorem whole_foldl_next {state : Bool × BlockLines} (fits : Fits state) (text : List Char) :
    Fits (text.foldl next state) ∧
      (text.foldl next state).2.whole = text.reverse ++ state.2.whole := by
  induction text generalizing state with
  | nil => exact ⟨fits, rfl⟩
  | cons c text ih =>
    obtain ⟨nextFits, isNext⟩ := fits_next fits c
    obtain ⟨lastFits, isLast⟩ := ih nextFits
    refine ⟨lastFits, ?_⟩
    rw [List.foldl_cons, isLast, isNext]
    simp

end BlockLines

section

variable {indent : Nat} {lines : BlockLines} {position : Position} {rest : List Char}

theorem blockLines_spaces {count : Nat} (within : position.column + count ≤ indent) :
    blockLines true indent false lines position (spaces count ++ rest) =
      blockLines true indent false lines (position.afterAll (spaces count)) rest := by
  induction count generalizing position with
  | zero => rfl
  | succ count ih =>
    have column : (position.after ' ').column = position.column + 1 := rfl
    rw [spaces_succ, List.cons_append, blockLines,
      decide_eq_true (show position.column < indent by omega)]
    exact ih (by omega)

/-- What is written of a literal block for a character that comes behind a break or within a
line. -/
def literalChar (indent : Nat) (afterBreak : Bool) (c : Char) : List Char :=
  if isBreak c then [c] else lineLead indent afterBreak ++ [c]

theorem literalLines_cons (afterBreak : Bool) (c : Char) (text : List Char) :
    literalLines indent afterBreak (c :: text) =
      literalChar indent afterBreak c ++ literalLines indent (isBreak c) text := by
  rw [literalLines, literalChar]
  cases isBreak c <;> simp [lineLead]

/-- The reader of a literal block passes what was written of a character. -/
theorem blockLines_literalChar (state : Bool × BlockLines) (c : Char)
    (starts : state.1 = false → position.column = 0) :
    blockLines true indent state.1 state.2 position (literalChar indent (!state.1) c ++ rest) =
      blockLines true indent (BlockLines.next state c).1 (BlockLines.next state c).2
        (position.afterAll (literalChar indent (!state.1) c)) rest := by
  obtain ⟨inLine, lines⟩ := state
  rw [literalChar]
  by_cases ends : isBreak c
  case pos =>
    have visible : c ≠ ' ' ∧ c ≠ '\t' := by
      simpa [isSpaceOrTab] using isSpaceOrTab_of_isBreak ends
    rw [if_pos ends, List.singleton_append, blockLines]
    cases inLine <;> simp [BlockLines.next, ends, visible]
  case neg =>
    rw [if_neg ends, List.append_assoc, List.singleton_append]
    cases inLine with
    | true =>
      change blockLines true indent true lines position (c :: rest) = _
      rw [blockLines]
      simp [BlockLines.next, ends, lineLead]
    | false =>
      have lineStart : position.column = 0 := starts rfl
      have column : (position.afterAll (spaces indent)).column = indent := by
        rw [column_afterAll_spaces, lineStart, Nat.zero_add]
      change blockLines true indent false lines position (spaces indent ++ c :: rest) = _
      rw [blockLines_spaces (by omega), blockLines]
      simp [BlockLines.next, ends, lineLead, column]

/-- Behind a break a line starts. -/
theorem column_literalChar (state : Bool × BlockLines) (c : Char)
    (broken : (BlockLines.next state c).1 = false) :
    (position.afterAll (literalChar indent (!state.1) c)).column = 0 := by
  rw [BlockLines.fst_next, Bool.not_eq_false'] at broken
  rw [literalChar, if_pos broken]
  exact column_after_of_isBreak position broken

/-- The reader of a literal block passes what was written of its lines. -/
theorem blockLines_literalLines (state : Bool × BlockLines) (text : List Char)
    (starts : state.1 = false → position.column = 0) :
    blockLines true indent state.1 state.2 position (literalLines indent (!state.1) text ++ rest) =
        blockLines true indent (text.foldl BlockLines.next state).1
          (text.foldl BlockLines.next state).2
          (position.afterAll (literalLines indent (!state.1) text)) rest ∧
      ((text.foldl BlockLines.next state).1 = false →
        (position.afterAll (literalLines indent (!state.1) text)).column = 0) := by
  induction text generalizing state position with
  | nil => exact ⟨rfl, starts⟩
  | cons c text ih =>
    have same : isBreak c = !(BlockLines.next state c).1 := by
      rw [BlockLines.fst_next, Bool.not_not]
    rw [literalLines_cons, List.append_assoc, blockLines_literalChar state c starts, same,
      Position.afterAll_append]
    exact ih (BlockLines.next state c) (column_literalChar state c)

/-- A literal block ends where a line begins that is indented less than its own. -/
theorem blockLines_end {count : Nat} {content : List Char} (begins : startsContent content)
    (outside : position.column + count < indent) :
    blockLines true indent false lines position (spaces count ++ content) =
      .ok (lines, ⟨position.afterAll (spaces count), content⟩) := by
  rw [blockLines_spaces (Nat.le_of_lt outside)]
  cases content with
  | nil => rfl
  | cons c content =>
    obtain ⟨noBlank, noBreak, -⟩ := of_startsContent begins
    have visible : c ≠ ' ' ∧ c ≠ '\t' := by simpa [isSpaceOrTab] using noBlank
    rw [blockLines]
    simp [visible, noBreak, Nat.ne_of_lt outside]

/-- The indentation of a literal block shows at its first line, if that starts with a visible
character. -/
theorem leadingLines_spaces {breaks : List Char} {widest count : Nat} {c : Char}
    (noBlank : isSpaceOrTab c = false) (noBreak : isBreak c = false) :
    leadingLines breaks widest position (spaces count ++ c :: rest) =
      .ok (breaks, max widest (position.column + count),
        ⟨position.afterAll (spaces count), c :: rest⟩) := by
  induction count generalizing widest position with
  | zero =>
    have visible : c ≠ ' ' ∧ c ≠ '\t' := by simpa [isSpaceOrTab] using noBlank
    rw [spaces_zero, List.nil_append, leadingLines]
    simp [visible, noBreak]
  | succ count ih =>
    have column : (position.after ' ').column = position.column + 1 := rfl
    have widths : max (max widest position.column) (position.column + 1 + count) =
        max widest (position.column + (count + 1)) := by
      omega
    rw [spaces_succ, List.cons_append, leadingLines, if_pos rfl, ih, column, widths]
    rfl

/-- What becomes of the breaks at the end of a literal block for a string. -/
def Chomping.ofText (text : List Char) : Chomping :=
  match text.reverse with
  | [] => .strip
  | [c] => if isBreak c then .keep else .strip
  | c :: d :: _ => if isBreak c then if isBreak d then .keep else .clip else .strip

/-- The mark that announces what becomes of the breaks. -/
def Chomping.mark : Chomping → List Char
  | .strip => ['-']
  | .clip => []
  | .keep => ['+']

theorem chompingMark_eq (text : List Char) : chompingMark text = (Chomping.ofText text).mark := by
  rw [chompingMark, Chomping.ofText]
  match text.reverse with
  | [] => rfl
  | [c] =>
    dsimp only
    cases isBreak c <;> rfl
  | c :: d :: _ =>
    dsimp only
    cases isBreak c <;> cases isBreak d <;> rfl

/-- Whether the first line of a string does not show how far it is indented. -/
def hidesIndent (text : List Char) : Bool := text.head?.any fun c => isSpace c || isBreak c

/-- The header of a literal block for a string. -/
def BlockHeader.ofLiteral (text : List Char) : BlockHeader where
  chomping := .ofText text
  increment := if hidesIndent text then some indentStep else none

/-- The marks of a literal block. -/
def literalMarks (text : List Char) : List Char := indentMark text ++ chompingMark text

theorem ofText_literalMarks (text rest : List Char) :
    BlockHeader.ofText (literalMarks text ++ '\n' :: rest) =
      .ok (.ofLiteral text, (literalMarks text).length) := by
  have indentMark_eq : indentMark text = if hidesIndent text then ['2'] else [] := rfl
  rw [literalMarks, BlockHeader.ofLiteral, chompingMark_eq, indentMark_eq]
  cases hidesIndent text <;> cases Chomping.ofText text <;> rfl

/-- What ends the line of a literal block, if its text does not. -/
def literalEnd (text : List Char) : List Char :=
  if text.getLast?.any isBreak then [] else ['\n']

/-- The lines of a literal block for a string. -/
def BlockLines.ofText (text : List Char) : BlockLines :=
  let (inLine, lines) := text.foldl next (false, start)
  if inLine then { lines with lastBreak := some '\n', emptyLines := [] } else lines

namespace BlockLines

theorem fst_foldl_next (state : Bool × BlockLines) (text : List Char) (last : Char) :
    ((text ++ [last]).foldl next state).1 = !isBreak last := by
  rw [List.foldl_append]
  exact fst_next _ last

/-- What has been read of a literal block when its text has. -/
theorem foldl_next_start (text : List Char) :
    Fits (text.foldl next (false, start)) ∧
      (text.foldl next (false, start)).2.whole = text.reverse := by
  have begins : Fits (false, start) := nofun
  obtain ⟨fits, isWhole⟩ := whole_foldl_next begins text
  exact ⟨fits, isWhole.trans (List.append_nil _)⟩

/-- The value of a literal block is the string that it was written for. -/
theorem value_ofText {text : List Char} (nonempty : text ≠ []) :
    (ofText text).value (.ofText text) = text := by
  obtain ⟨text, last, rfl⟩ := (List.eq_nil_or_concat text).resolve_left nonempty
  rw [List.concat_eq_append]
  obtain ⟨fits, isWhole⟩ := foldl_next_start (text ++ [last])
  have inLine := fst_foldl_next (false, start) text last
  rw [ofText]
  by_cases ends : isBreak last
  case neg =>
    have chomps : Chomping.ofText (text ++ [last]) = .strip := by
      rw [Chomping.ofText, List.reverse_append]
      cases text.reverse <;> simp [ends]
    obtain ⟨noBreak, noLines⟩ := fits (inLine.trans (by rw [eq_false_of_ne_true ends]; rfl))
    rw [whole, noBreak, noLines] at isWhole
    simp only [inLine, ends, chomps, value]
    exact (congrArg List.reverse isWhole).trans (List.reverse_reverse _)
  case pos =>
    simp only [inLine, ends, Bool.not_true, Bool.false_eq_true, if_false]
    obtain rfl | ⟨text, other, rfl⟩ := List.eq_nil_or_concat text
    case inl =>
      have chomps : Chomping.ofText ([] ++ [last]) = .keep := by simp [Chomping.ofText, ends]
      rw [chomps]
      exact (congrArg List.reverse isWhole).trans (List.reverse_reverse _)
    case inr =>
      rw [List.concat_eq_append] at *
      by_cases isEmpty : isBreak other
      case pos =>
        have chomps : Chomping.ofText (text ++ [other] ++ [last]) = .keep := by
          simp [Chomping.ofText, ends, isEmpty]
        rw [chomps]
        exact (congrArg List.reverse isWhole).trans (List.reverse_reverse _)
      case neg =>
        have chomps : Chomping.ofText (text ++ [other] ++ [last]) = .clip := by
          simp [Chomping.ofText, ends, isEmpty]
        have noLines :
            ((text ++ [other] ++ [last]).foldl next (false, start)).2.emptyLines = [] := by
          have inside := fst_foldl_next (false, start) text other
          rw [eq_false_of_ne_true isEmpty] at inside
          rw [List.foldl_append, List.foldl_cons, List.foldl_nil, next, if_pos ends, inside]
          rfl
        rw [whole, noLines] at isWhole
        rw [chomps]
        exact (congrArg List.reverse isWhole).trans (List.reverse_reverse _)

end BlockLines

/-- The reader of a literal block reads its lines, to where one begins that is indented
less. -/
theorem blockLines_ofText {text : List Char} (nonempty : text ≠ []) {count : Nat}
    {content : List Char} (begins : startsContent content) (outside : count < indent)
    (lineStart : position.column = 0) :
    blockLines true indent false .start position
        (literalLines indent true text ++ (literalEnd text ++ (spaces count ++ content))) =
      .ok (.ofText text, ⟨position.afterAll (literalLines indent true text ++
        (literalEnd text ++ spaces count)), content⟩) := by
  have ⟨walks, broken⟩ := @blockLines_literalLines indent position
    (literalEnd text ++ (spaces count ++ content)) (false, .start) text fun _ => lineStart
  refine walks.trans ?_
  obtain ⟨text, last, rfl⟩ := (List.eq_nil_or_concat text).resolve_left nonempty
  rw [List.concat_eq_append] at *
  have inLine := BlockLines.fst_foldl_next (false, .start) text last
  rw [BlockLines.ofText, literalEnd, List.getLast?_append, List.getLast?_singleton]
  by_cases ends : isBreak last
  case pos =>
    have column := broken (by rw [inLine, ends]; rfl)
    simp only [inLine, ends, Bool.not_true, Option.some_or, Option.any_some, if_true,
      Bool.false_eq_true, if_false, List.nil_append, Position.afterAll_append]
    exact blockLines_end begins (column.symm ▸ (Nat.zero_add count).symm ▸ outside)
  case neg =>
    simp only [inLine, ends, Bool.not_false, Option.some_or, Option.any_some, if_true,
      Bool.false_eq_true, if_false, Position.afterAll_append, List.singleton_append]
    change blockLines true indent true _ _ ('\n' :: (spaces count ++ content)) = _
    rw [blockLines, if_pos rfl, if_pos (by decide)]
    exact blockLines_end begins ((Nat.zero_add count).symm ▸ outside)

end

@[simp] theorem Cursor.drop_append (position : Position) (passed rest : List Char) :
    (Cursor.mk position (passed ++ rest)).drop passed.length =
      ⟨position.afterAll passed, rest⟩ := by
  rw [Cursor.drop, List.take_left, List.drop_left]

theorem literalBlock_append (indent : Nat) (text rest : List Char) :
    literalBlock indent text ++ rest =
      '|' :: (literalMarks text ++ '\n' :: (literalLines indent true text ++ rest)) := by
  simp [literalBlock, literalMarks]

/-- The lines of a literal block, the indentation of which is not announced, begin with that
indentation. -/
theorem literalLines_eq_spaces {indent : Nat} {c : Char} (noBreak : isBreak c = false)
    (text : List Char) :
    literalLines indent true (c :: text) =
      spaces indent ++ c :: literalLines indent false text := by
  rw [literalLines, noBreak]
  rfl

/-- The reader of a literal block undoes its writing, given what indents the block.  It ends
where a line begins that is indented less than its own. -/
theorem blockScalar_append {indent count : Nat} {text content : List Char} (nonempty : text ≠ [])
    (printable : ∀ c ∈ text, isPrintable c) (begins : startsContent content)
    (outside : count ≤ indent) (position : Position) :
    blockScalar true (some indent) ⟨position, literalBlock (indent + indentStep) text ++
        (literalEnd text ++ (spaces count ++ content))⟩ =
      .ok (text, ⟨position.afterAll (literalBlock (indent + indentStep) text ++
        (literalEnd text ++ spaces count)), content⟩) := by
  have within : count < indent + indentStep :=
    Nat.lt_of_le_of_lt outside (Nat.lt_add_of_pos_right (by decide))
  set body := literalLines (indent + indentStep) true text ++
    (literalEnd text ++ (spaces count ++ content)) with body_eq
  set behind := ((position.after '|').afterAll (literalMarks text)).after '\n' with behind_eq
  have reads : blockLines true (indent + indentStep) false ⟨[], none, [], false⟩ behind body =
      .ok (.ofText text, ⟨position.afterAll (literalBlock (indent + indentStep) text ++
        (literalEnd text ++ spaces count)), content⟩) := by
    refine (blockLines_ofText nonempty begins within rfl).trans ?_
    rw [literalBlock_append]
    simp [behind_eq]
  have atMarks : (Cursor.mk position ('|' :: (literalMarks text ++ '\n' :: body))).drop 1 =
      ⟨position.after '|', literalMarks text ++ '\n' :: body⟩ := rfl
  have ends (position : Position) :
      lineEnd false position ('\n' :: body) = some ⟨position, '\n' :: body⟩ := rfl
  rw [literalBlock_append, blockScalar, atMarks, ofText_literalMarks]
  simp only [bind, Except.bind, Cursor.drop_append, ends, ← behind_eq]
  rw [BlockHeader.ofLiteral]
  cases hides : hidesIndent text with
  | true =>
    simp only [if_true, Option.getD_some, reads, BlockLines.value_ofText nonempty]
    rfl
  | false =>
    obtain ⟨c, text, rfl⟩ := List.exists_cons_of_ne_nil nonempty
    obtain ⟨visible, noBreak⟩ : c ≠ ' ' ∧ isBreak c = false := by
      simpa [hidesIndent, isSpace] using hides
    have noBlank := isSpaceOrTab_eq_false (printable c List.mem_cons_self) visible
    have width : max (max 0 (behind.column + (indent + indentStep))) (max 1 (indent + 1)) =
        indent + indentStep := by
      change max (max 0 (0 + (indent + 2))) (max 1 (indent + 1)) = indent + 2
      omega
    have atStart : behind.column + (indent + indentStep) ≤ indent + indentStep :=
      Nat.le_of_eq (Nat.zero_add _)
    rw [literalLines_eq_spaces noBreak, List.append_assoc, List.cons_append] at body_eq
    rw [body_eq, blockLines_spaces atStart] at reads
    simp only [Bool.false_eq_true, if_false, body_eq, leadingLines_spaces noBlank noBreak,
      Option.map_some, Option.getD_some, width, reads, BlockLines.value_ofText nonempty]
    rfl

end WorkspaceVolumes.Yaml
