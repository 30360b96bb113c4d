import WorkspaceVolumes.Proofs.Scanning

/-!
# Tokens of printed values

The text of a value is read as the tokens of that value.  The printer writes a collection by
writing what is in it, so this is an induction on the value, for every indentation.

**Pieces of text.**  What is written of a value is not a text of its own.  So a statement about
a piece says what the scanner makes of it wherever it stands, up to a line that is indented by
so little that the piece must have ended (`Reads`, `LinesRead`).  Pieces that follow each other
are then put together, one lemma for each way in which the printer does so.

**Behind a key** a mapping is indented further, but a sequence is not.  A sequence at the
indentation of its key has no tokens where it starts and ends.

## Main definitions

* `Textual`: the values that the library writes.
* `tokens`: the tokens of a value.
* `Reads`, `LinesRead`: what is read of a piece of text, behind an indicator or on lines of
  its own.

## Main statements

* `Textual.scannedBack`: whatever the library writes is read as its tokens.
* `scan_print`: so is the text of a whole mapping.
-/

namespace WorkspaceVolumes.Yaml

/-! ## Values and their tokens -/

/-- The values that the library writes, nested at most so deep: strings and booleans, in
sequences and in mappings keyed by strings. -/
inductive Textual : Nat → Data → Prop
  | text {depth : Nat} (value : String) : Textual depth (.text value)
  | flag {depth : Nat} (value : Bool) : Textual depth (.flag value)
  | list {depth : Nat} {items : List Data} (each : ∀ item ∈ items, Textual depth item) :
      Textual (depth + 1) (.list items)
  | object {depth : Nat} {fields : List (String × Data)}
      (each : ∀ field ∈ fields, Textual depth field.2) : Textual (depth + 1) (.object fields)

mutual

/-- The tokens of a value.  A sequence below a key is not indented, and then it has no tokens
where it starts and ends. -/
def tokens (hanging : Bool) : Data → List Token
  | .text value => [.scalar (.ofText false value.toList) value.toList]
  | .list [] => [.flowSequenceStart, .flowSequenceEnd]
  | .list items =>
    if hanging then itemTokens items else .blockSequenceStart :: (itemTokens items ++ [.blockEnd])
  | .record [] => [.flowMappingStart, .flowMappingEnd]
  | .record entries => .blockMappingStart :: (recordTokens entries ++ [.blockEnd])
  | .null => [.scalar .plain (plainText .null)]
  | .flag value => [.scalar .plain (plainText (.flag value))]
  | .whole value => [.scalar .plain (plainText (.whole value))]
  | .decimal numeral => [.scalar .plain (plainText (.decimal numeral))]

/-- The tokens of the elements of a sequence. -/
def itemTokens : List Data → List Token
  | [] => []
  | item :: rest => .blockEntry :: (tokens false item ++ itemTokens rest)

/-- The tokens of an entry of a mapping. -/
def entryTokens : Data × Data → List Token
  | (key, value) =>
    .key :: (tokens false key ++ .value :: tokens (implicitKey? key).isSome value)

/-- The tokens of the entries of a mapping. -/
def recordTokens : List (Data × Data) → List Token
  | [] => []
  | entry :: rest => entryTokens entry ++ recordTokens rest

end

/-! ## What is read of a piece of text -/

open Scanner

/-- That what is written of a value behind an indicator is read as some tokens, up to a line
that is indented no further than what encloses the value. -/
structure Reads (hanging : Bool) (indent : Nat) (written : List Char) (tokens : List Token) :
    Prop where
  printable : ∀ c ∈ written, isPrintable c
  begins : ∀ rest, startsBlankOrEnd (written ++ rest)
  endsLine : ∀ position : Position, (position.afterAll written).column = 0
  advances : ∀ {position : Position} {log : TokenLog} {outer : List Nat} {count : Nat}
    {content : List Char}, indent < position.column →
      (hanging = false → position.column = indent + 1) → count ≤ indent → startsContent content →
        Advances
          (inBlock (!hanging) position (written ++ (spaces count ++ content)) log (indent :: outer)
            none)
          (inBlock true (position.afterAll (written ++ spaces count)) content (log.append tokens)
            (indent :: outer) none)

/-- That what is written from an indentation on is read as some tokens, after one for the start
of a collection if there is none at that indentation. -/
structure LinesRead (first : Token) (indent : Nat) (written : List Char) (tokens : List Token) :
    Prop where
  printable : ∀ c ∈ written, isPrintable c
  begins : ∀ rest, startsContent (written ++ rest)
  endsLine : ∀ position : Position, (position.afterAll written).column = 0
  advances : ∀ {position : Position} {log : TokenLog} {indents : List Nat} {count : Nat}
    {content : List Char}, position.column = indent → Within indent indents → count ≤ indent →
      startsContent content →
        Advances
          (inBlock true position (written ++ (spaces count ++ content)) log indents none)
          (inBlock true (position.afterAll (written ++ spaces count)) content
            (log.append (opening first indent indents ++ tokens)) (opened indent indents) none)

theorem column_afterAll_line {written : List Char}
    (endsLine : ∀ position : Position, (position.afterAll written).column = 0)
    (position : Position) (count : Nat) :
    (position.afterAll (written ++ spaces count)).column = count := by
  rw [Position.afterAll_append, column_afterAll_spaces, endsLine, Nat.zero_add]

theorem advances_space {keyAllowed : Bool} {position : Position} {content : List Char}
    {log : TokenLog} {indents : List Nat} (begins : startsContent content) :
    Advances (inBlock keyAllowed position (' ' :: content) log indents none)
      (inBlock keyAllowed (position.after ' ') content log indents none) :=
  advances_of_skip begins ((skipBlanks_spaces 1).trans (skipBlanks_content false begins))
    outlived_none (Nat.le_succ _)

namespace Reads

variable {hanging : Bool} {indent : Nat}

/-- A string is read as its scalar. -/
theorem ofText (text : List Char) :
    Reads hanging indent (' ' :: scalarLine (indent + indentStep) text)
      [.scalar (.ofText false text) text] where
  printable := List.forall_mem_cons.2 ⟨by decide, fun _ => isPrintable_of_mem_scalarLine⟩
  begins _ := rfl
  endsLine position := column_afterAll_scalarLine (position.after ' ') _ text
  advances inside _ outside begins :=
    (advances_space (startsContent_scalarLine _ text _)).trans
      (advances_scalarLine (Nat.lt_succ_of_lt inside) outside begins text)

/-- What stands plain is read as a plain scalar. -/
theorem ofPlain {text : List Char} (stands : StandsPlain text) :
    Reads hanging indent (' ' :: (text ++ ['\n'])) [.scalar .plain text] where
  printable := by
    refine List.forall_mem_cons.2 ⟨by decide, fun c member => ?_⟩
    rcases List.mem_append.1 member with inside | last
    · exact stands.printable c inside
    · exact List.mem_singleton.1 last ▸ by decide
  begins _ := rfl
  endsLine position := by
    rw [Position.afterAll_cons, Position.afterAll_append]
    rfl
  advances {position log outer count content} inside _ outside begins := by
    have further : indent < (position.after ' ').column := Nat.lt_succ_of_lt inside
    rw [List.cons_append, List.cons_append, Position.afterAll_cons, List.append_assoc,
      List.append_assoc]
    exact (advances_space (startsContent_of_standsPlain stands _)).trans
      (advances_plainLine further outside begins stands)

/-- Two characters are read as an empty collection. -/
theorem emptyFlow {c d : Char} {first last : Token}
    (begins : ∀ rest, startsContent (c :: d :: rest))
    (goesOn : ∀ rest, startsContent (d :: rest)) (short : c.utf8Size ≤ maxKeyDistance)
    (opens : ∀ (s : Scanner) (rest : List Char), s.fetch c rest = s.openFlow first)
    (closes : ∀ (s : Scanner) (rest : List Char), s.fetch d rest = s.closeFlow last)
    (printable : isPrintable c ∧ isPrintable d) :
    Reads hanging indent [' ', c, d, '\n'] [first, last] where
  printable := by
    simp only [List.forall_mem_cons]
    exact ⟨by decide, printable.1, printable.2, by decide, nofun⟩
  begins _ := rfl
  endsLine position := rfl
  advances {position log outer count content} inside _ outside starts := by
    have further : indent < (position.after ' ').column := Nat.lt_succ_of_lt inside
    have within : Within (position.after ' ').column (indent :: outer) :=
      within_cons_iff.2 (Nat.le_of_lt further)
    exact ((advances_space (begins _)).trans (advances_emptyFlow (begins _) (goesOn _) short opens
      closes within)).trans (advances_lineEnd starts (outlived_lineEnd further [c, d]))

theorem emptyList :
    Reads hanging indent " []\n".toList [.flowSequenceStart, .flowSequenceEnd] := by
  have reads : Reads hanging indent [' ', '[', ']', '\n'] [.flowSequenceStart, .flowSequenceEnd] :=
    emptyFlow (fun _ => rfl) (fun _ => rfl) (by decide) (by simp [fetch, startsMarker])
      (by simp [fetch, startsMarker]) (by decide)
  exact reads

theorem emptyRecord :
    Reads hanging indent " \x7b\x7d\n".toList [.flowMappingStart, .flowMappingEnd] := by
  have reads : Reads hanging indent [' ', '{', '}', '\n'] [.flowMappingStart, .flowMappingEnd] :=
    emptyFlow (fun _ => rfl) (fun _ => rfl) (by decide) (by simp [fetch, startsMarker])
      (by simp [fetch, startsMarker]) (by decide)
  exact reads

end Reads

/-! ## Collections -/

section

variable {first : Token} {indent : Nat} {written : List Char} {tokens : List Token}

/-- Lines of a collection that is open are read as more of it. -/
theorem LinesRead.further (lines : LinesRead first indent written tokens) {position : Position}
    {log : TokenLog} {outer : List Nat} {count : Nat} {content : List Char}
    (stands : position.column = indent) (outside : count ≤ indent)
    (begins : startsContent content) :
    Advances
      (inBlock true position (written ++ (spaces count ++ content)) log (indent :: outer) none)
      (inBlock true (position.afterAll (written ++ spaces count)) content (log.append tokens)
        (indent :: outer) none) := by
  have advances : Advances (inBlock true position _ log (indent :: outer) none) _ :=
    lines.advances stands (within_cons_iff.2 (Nat.le_refl _)) outside begins
  rwa [opening_cons_self, opened_cons_self] at advances

/-- Lines that are indented more than what encloses them are read as a collection, which ends
with them. -/
theorem LinesRead.nested (lines : LinesRead first (indent + indentStep) written tokens)
    {position : Position} {log : TokenLog} {outer : List Nat} {count : Nat} {content : List Char}
    (stands : position.column = indent + indentStep) (outside : count ≤ indent)
    (begins : startsContent content) :
    Advances
      (inBlock true position (written ++ (spaces count ++ content)) log (indent :: outer) none)
      (inBlock true (position.afterAll (written ++ spaces count)) content
        (log.append (first :: (tokens ++ [.blockEnd]))) (indent :: outer) none) := by
  have wider : indent < indent + indentStep := Nat.lt_add_of_pos_right (by decide)
  have within : Within (indent + indentStep) (indent :: outer) :=
    within_cons_iff.2 (Nat.le_of_lt wider)
  have isNested : nests (indent + indentStep) (indent :: outer) = true := decide_eq_true wider
  have outsideToo : count ≤ indent + indentStep := Nat.le_trans outside (Nat.le_of_lt wider)
  have lower : (position.afterAll (written ++ spaces count)).column < indent + indentStep := by
    rw [column_afterAll_line lines.endsLine]
    exact Nat.lt_of_le_of_lt outside wider
  have advances : Advances (inBlock true position _ log _ none) _ :=
    lines.advances stands within outsideToo begins
  rw [opening, opened, isNested] at advances
  have ends : first :: (tokens ++ [.blockEnd]) = [first] ++ tokens ++ [.blockEnd] := rfl
  rw [ends, ← TokenLog.append_append]
  exact advances.trans (advances_close begins lower)

namespace Reads

/-- Lines of a collection behind an indicator stand right of it. -/
theorem inline (lines : LinesRead first (indent + indentStep) written tokens) :
    Reads false indent (' ' :: written) (first :: (tokens ++ [.blockEnd])) where
  printable := List.forall_mem_cons.2 ⟨by decide, lines.printable⟩
  begins _ := rfl
  endsLine position := lines.endsLine (position.after ' ')
  advances {position log outer count content} inside stands outside begins := by
    have column : (position.after ' ').column = indent + indentStep :=
      congrArg (· + 1) (stands rfl)
    exact (advances_space (lines.begins _)).trans (lines.nested column outside begins)

/-- What is written on lines of its own is read there. -/
theorem onNextLine {column : Nat} (printable : ∀ c ∈ written, isPrintable c)
    (begins : ∀ rest, startsContent (written ++ rest))
    (endsLine : ∀ position : Position, (position.afterAll written).column = 0)
    (advances : ∀ {position : Position} {log : TokenLog} {outer : List Nat} {count : Nat}
      {content : List Char}, position.column = column → count ≤ indent → startsContent content →
        Advances
          (inBlock true position (written ++ (spaces count ++ content)) log (indent :: outer) none)
          (inBlock true (position.afterAll (written ++ spaces count)) content (log.append tokens)
            (indent :: outer) none)) :
    Reads true indent ('\n' :: (spaces column ++ written)) tokens where
  printable c member := by
    rcases List.mem_cons.1 member with rfl | inside
    · decide
    · rcases List.mem_append.1 inside with isSpace | later
      · exact List.eq_of_mem_replicate isSpace ▸ by decide
      · exact printable c later
  begins _ := rfl
  endsLine position := by
    rw [Position.afterAll_cons, Position.afterAll_append]
    exact endsLine _
  advances {position log outer count content} inside _ outside starts := by
    have stands : (position.afterAll ('\n' :: spaces column)).column = column :=
      (column_afterAll_spaces _ _).trans (Nat.zero_add _)
    have passed : position.afterAll ('\n' :: (spaces column ++ (written ++ spaces count))) =
        (position.afterAll ('\n' :: spaces column)).afterAll (written ++ spaces count) := by
      rw [← Position.afterAll_append, List.cons_append]
    simp only [List.cons_append, List.append_assoc, passed]
    exact (advances_lineEnd (begins _) outlived_none).trans (advances stands outside starts)

/-- Lines of a collection behind a key are indented more than the key. -/
theorem below (lines : LinesRead first (indent + indentStep) written tokens) :
    Reads true indent ('\n' :: (spaces (indent + indentStep) ++ written))
      (first :: (tokens ++ [.blockEnd])) :=
  onNextLine lines.printable lines.begins lines.endsLine lines.nested

/-- Lines of a sequence behind a key may stand at its indentation.  They are no collection of
their own there. -/
theorem besides (lines : LinesRead first indent written tokens) :
    Reads true indent ('\n' :: (spaces indent ++ written)) tokens :=
  onNextLine lines.printable lines.begins lines.endsLine lines.further

end Reads

namespace LinesRead

/-- An element of a sequence is a dash and what is written behind it. -/
theorem ofItem (item : Reads false indent written tokens) :
    LinesRead .blockSequenceStart indent ('-' :: written) (.blockEntry :: tokens) where
  printable := List.forall_mem_cons.2 ⟨by decide, item.printable⟩
  begins _ := rfl
  endsLine position := item.endsLine (position.after '-')
  advances {position log indents count content} stands within outside begins := by
    subst stands
    obtain ⟨outer, isOpen⟩ := exists_opened_eq within
    have dash : Advances (inBlock true position _ log _ none) _ :=
      advances_blockEntry (item.begins (spaces count ++ content)) within
    rw [isOpen] at dash ⊢
    rw [List.append_cons, ← TokenLog.append_append]
    exact dash.trans (item.advances (Nat.lt_succ_self _) (fun _ => rfl) outside begins)

/-- A key that may stand before its colon is read there, and its value behind the colon. -/
theorem ofImplicit {key : List Char} (oneLine : ∀ c ∈ key, isBreak c = false)
    (short : String.utf8Len key ≤ maxKeyLength) (value : Reads true indent written tokens) :
    LinesRead .blockMappingStart indent (scalarText true 0 key ++ ':' :: written)
      (.key :: .scalar (.ofText false key) key :: .value :: tokens) where
  printable c member := by
    rcases List.mem_append.1 member with inKey | later
    · exact isPrintable_of_mem_scalarText inKey
    · rcases List.mem_cons.1 later with rfl | inValue
      · decide
      · exact value.printable c inValue
  begins rest := by
    rw [List.append_assoc]
    exact startsContent_scalarText _ _ _ _
  endsLine position := by
    rw [Position.afterAll_append, Position.afterAll_cons]
    exact value.endsLine _
  advances {position log indents count content} stands within outside begins := by
    subst stands
    obtain ⟨outer, isOpen⟩ := exists_opened_eq within
    have isKey : Advances (inBlock true position _ log _ none) _ :=
      advances_key oneLine short (value.begins (spaces count ++ content)) within
    have inside :
        position.column < (position.afterAll (scalarText true 0 key ++ [':'])).column := by
      have writtenOneLine : ∀ c ∈ scalarText true 0 key, isBreak c = false :=
        fun _ => isBreak_of_mem_scalarText oneLine
      have behind := Position.column_afterAll writtenOneLine position
      rw [Position.afterAll_append]
      exact Nat.lt_succ_of_le (behind ▸ Nat.le_add_right _ _)
    have passed : position.afterAll (scalarText true 0 key ++ ':' :: (written ++ spaces count)) =
        (position.afterAll (scalarText true 0 key ++ [':'])).afterAll
          (written ++ spaces count) := by
      simp
    have tokens_eq : opening .blockMappingStart position.column indents ++
          .key :: .scalar (.ofText false key) key :: .value :: tokens =
        opening .blockMappingStart position.column indents ++
          [.key, .scalar (.ofText false key) key, .value] ++ tokens := by
      simp
    rw [isOpen] at isKey ⊢
    rw [tokens_eq, ← TokenLog.append_append]
    simp only [List.append_assoc, List.cons_append, passed]
    exact isKey.trans (value.advances inside nofun outside begins)

/-- A key that may not stand before its colon is announced, and its value follows on a line of
its own. -/
theorem ofExplicit {keyWritten : List Char} {keyTokens : List Token}
    (key : Reads false indent keyWritten keyTokens) (value : Reads false indent written tokens) :
    LinesRead .blockMappingStart indent
      ('?' :: (keyWritten ++ (spaces indent ++ ':' :: written)))
      (.key :: (keyTokens ++ .value :: tokens)) where
  printable c member := by
    simp only [List.mem_cons, List.mem_append] at member
    rcases member with rfl | inKey | isSpace | rfl | inValue
    · decide
    · exact key.printable c inKey
    · exact List.eq_of_mem_replicate isSpace ▸ by decide
    · decide
    · exact value.printable c inValue
  begins rest := rfl
  endsLine position := by
    rw [Position.afterAll_cons, Position.afterAll_append, Position.afterAll_append]
    exact value.endsLine _
  advances {position log indents count content} stands within outside begins := by
    subst stands
    obtain ⟨outer, isOpen⟩ := exists_opened_eq within
    have mark : Advances (inBlock true position _ log _ none) _ :=
      advances_explicitKey (key.begins
        (spaces position.column ++ ':' :: (written ++ (spaces count ++ content)))) within
    rw [isOpen] at mark ⊢
    have colon : ((position.after '?').afterAll (keyWritten ++ spaces position.column)).column =
        position.column := column_afterAll_line key.endsLine _ _
    have inside : position.column <
        (((position.after '?').afterAll (keyWritten ++ spaces position.column)).after ':').column :=
      Nat.lt_succ_of_le (Nat.le_of_eq colon.symm)
    have passed : position.afterAll ('?' :: (keyWritten ++ (spaces position.column ++
          ':' :: (written ++ spaces count)))) =
        (((position.after '?').afterAll (keyWritten ++ spaces position.column)).after ':').afterAll
          (written ++ spaces count) := by
      simp
    have tokens_eq : opening .blockMappingStart position.column indents ++
          .key :: (keyTokens ++ .value :: tokens) =
        opening .blockMappingStart position.column indents ++ [.key] ++ keyTokens ++ [.value] ++
          tokens := by
      simp
    rw [tokens_eq, ← TokenLog.append_append _ _ tokens, ← TokenLog.append_append _ _ [.value],
      ← TokenLog.append_append _ _ keyTokens]
    simp only [List.cons_append, List.append_assoc, passed]
    exact (mark.trans (key.advances (Nat.lt_succ_self _) (fun _ => rfl) (Nat.le_refl _) rfl)).trans
      ((advances_explicitValue colon (value.begins _)).trans
        (value.advances inside (fun _ => congrArg (· + 1) colon) outside begins))

/-- Lines that follow others at the same indentation belong to the same collection. -/
theorem append {moreWritten : List Char} {moreTokens : List Token}
    (lines : LinesRead first indent written tokens)
    (more : LinesRead first indent moreWritten moreTokens) :
    LinesRead first indent (written ++ (spaces indent ++ moreWritten)) (tokens ++ moreTokens) where
  printable c member := by
    simp only [List.mem_append] at member
    rcases member with inLines | isSpace | inMore
    · exact lines.printable c inLines
    · exact List.eq_of_mem_replicate isSpace ▸ by decide
    · exact more.printable c inMore
  begins rest := by
    rw [List.append_assoc]
    exact lines.begins _
  endsLine position := by
    rw [Position.afterAll_append, Position.afterAll_append]
    exact more.endsLine _
  advances {position log indents count content} stands within outside begins := by
    have passed : position.afterAll (written ++ (spaces indent ++ (moreWritten ++ spaces count))) =
        (position.afterAll (written ++ spaces indent)).afterAll (moreWritten ++ spaces count) := by
      simp
    obtain ⟨outer, isOpen⟩ := exists_opened_eq within
    have reads : Advances (inBlock true position _ log _ none) _ :=
      lines.advances stands within (Nat.le_refl _) (more.begins (spaces count ++ content))
    rw [isOpen] at reads ⊢
    simp only [List.append_assoc, passed]
    rw [← List.append_assoc (opening ..), ← TokenLog.append_append _ _ moreTokens]
    exact reads.trans
      (more.further (column_afterAll_line lines.endsLine _ _) outside begins)

end LinesRead

end

/-! ## What is read of a value -/

/-- That a value is read as its tokens wherever it is written. -/
def ScannedBack (value : Data) : Prop := ∀ indent,
  Reads false indent (inlineNode indent value) (tokens false value) ∧
    Reads true indent (hangingNode indent value) (tokens true value)

section

variable {indent : Nat}

theorem scannedBack_text (value : String) : ScannedBack (.text value) :=
  fun _ => ⟨.ofText value.toList, .ofText value.toList⟩

theorem scannedBack_flag (value : Bool) : ScannedBack (.flag value) := by
  have visible : ∀ c ∈ plainText (.flag value), isPrintable c ∧ isBreak c = false :=
    List.all_iff_forall_prop.1 (by cases value <;> decide)
  have stands : StandsPlain (plainText (.flag value)) := {
    nonempty := by cases value <;> decide
    oneLine := fun c member => (visible c member).2
    printable := fun c member => (visible c member).1
    noMarker := by cases value <;> decide
    noIndicator := by cases value <;> decide
    holdsNone := by cases value <;> decide
    starts := by cases value <;> decide
    ends := by cases value <;> decide }
  exact fun _ => ⟨.ofPlain stands, .ofPlain stands⟩

/-! ### Sequences -/

theorem itemLines_true_singleton (item : Data) :
    itemLines indent true [item] = '-' :: inlineNode indent item := by
  simp [itemLines]

theorem itemLines_true_cons (item other : Data) (rest : List Data) :
    itemLines indent true (item :: other :: rest) =
      '-' :: inlineNode indent item ++
        (spaces indent ++ itemLines indent true (other :: rest)) := by
  simp [itemLines]

/-- Elements that are read are read one after the other. -/
theorem linesRead_items {items : List Data} (nonempty : items ≠ [])
    (each : ∀ item ∈ items, ScannedBack item) :
    LinesRead .blockSequenceStart indent (itemLines indent true items) (itemTokens items) := by
  induction items with
  | nil => exact absurd rfl nonempty
  | cons item rest ih =>
    obtain ⟨here, later⟩ := List.forall_mem_cons.1 each
    have first := LinesRead.ofItem (here indent).1
    cases rest with
    | nil =>
      rw [itemLines_true_singleton]
      simpa [itemTokens] using first
    | cons other rest =>
      rw [itemLines_true_cons, itemTokens]
      exact first.append (ih (List.cons_ne_nil _ _) later)

theorem scannedBack_list {items : List Data} (each : ∀ item ∈ items, ScannedBack item) :
    ScannedBack (.list items) := by
  cases items with
  | nil =>
    exact fun _ => ⟨.emptyList, .emptyList⟩
  | cons item rest =>
    intro indent
    have lines (indent : Nat) : LinesRead _ indent (itemLines indent true (item :: rest)) _ :=
      linesRead_items (List.cons_ne_nil item rest) each
    refine ⟨.inline (lines _), ?_⟩
    have later : itemLines indent false (item :: rest) =
        spaces indent ++ itemLines indent true (item :: rest) := by
      simp [itemLines]
    change Reads true indent ('\n' :: itemLines indent false (item :: rest)) _
    rw [later]
    exact .besides (lines _)

/-! ### Mappings -/

theorem scannedBack_entry (key : String) {value : Data} (reads : ScannedBack value) :
    LinesRead .blockMappingStart indent (entryLines indent (.text key, value))
      (entryTokens (.text key, value)) := by
  by_cases fits : (key.utf8ByteSize ≤ maxKeyLength && !key.toList.any isBreak) = true
  case pos =>
    have implicit : implicitKey? (.text key) = some (scalarText true 0 key.toList) := if_pos fits
    obtain ⟨short, oneLine⟩ : key.utf8ByteSize ≤ maxKeyLength ∧
        ∀ c ∈ key.toList, isBreak c = false := by
      simpa using fits
    rw [← String.utf8Len_toList] at short
    rw [entryLines, entryTokens, implicit]
    exact .ofImplicit oneLine short (reads indent).2
  case neg =>
    have explicit : implicitKey? (.text key) = none := if_neg fits
    rw [entryLines, entryTokens, explicit]
    have lines := LinesRead.ofExplicit ((scannedBack_text key) indent).1 (reads indent).1
    simpa using lines

theorem recordLines_true_singleton (entry : Data × Data) :
    recordLines indent true [entry] = entryLines indent entry := by
  simp [recordLines]

theorem recordLines_true_cons (entry other : Data × Data) (rest : List (Data × Data)) :
    recordLines indent true (entry :: other :: rest) =
      entryLines indent entry ++ (spaces indent ++ recordLines indent true (other :: rest)) := by
  simp [recordLines]

/-- Entries whose values are read are read one after the other. -/
theorem linesRead_fields {fields : List (String × Data)} (nonempty : fields ≠ [])
    (each : ∀ field ∈ fields, ScannedBack field.2) :
    LinesRead .blockMappingStart indent
      (recordLines indent true (fields.map fun field => (.text field.1, field.2)))
      (recordTokens (fields.map fun field => (.text field.1, field.2))) := by
  induction fields with
  | nil => exact absurd rfl nonempty
  | cons field rest ih =>
    obtain ⟨here, later⟩ := List.forall_mem_cons.1 each
    have first : LinesRead _ indent _ _ := scannedBack_entry field.1 here
    cases rest with
    | nil =>
      rw [List.map_singleton, recordLines_true_singleton]
      simpa [recordTokens] using first
    | cons other rest =>
      rw [List.map_cons, List.map_cons, recordLines_true_cons, recordTokens]
      exact first.append (ih (List.cons_ne_nil _ _) later)

theorem scannedBack_object {fields : List (String × Data)}
    (each : ∀ field ∈ fields, ScannedBack field.2) : ScannedBack (.object fields) := by
  cases fields with
  | nil => exact fun _ => ⟨.emptyRecord, .emptyRecord⟩
  | cons field rest =>
    intro indent
    have lines (indent : Nat) : LinesRead _ indent _ _ :=
      linesRead_fields (List.cons_ne_nil field rest) each
    refine ⟨.inline (lines _), ?_⟩
    have later (entry : Data × Data) (rest : List (Data × Data)) (indent : Nat) :
        recordLines indent false (entry :: rest) =
          spaces indent ++ recordLines indent true (entry :: rest) := by
      simp [recordLines]
    change Reads true indent ('\n' :: recordLines (indent + indentStep) false (_ :: _)) _
    rw [later]
    exact .below (lines _)

/-- **Whatever the library writes is read as its tokens.** -/
theorem Textual.scannedBack {depth : Nat} {value : Data} (textual : Textual depth value) :
    ScannedBack value := by
  induction textual with
  | text value => exact scannedBack_text value
  | flag value => exact scannedBack_flag value
  | list _ ih => exact scannedBack_list ih
  | object _ ih => exact scannedBack_object ih

end

/-! ## What is read of a document -/

/-- What can be printed as it is has only line feeds for line ends. -/
theorem normalizeBreaks_eq_self {text : List Char} (printable : ∀ c ∈ text, isPrintable c) :
    normalizeBreaks text = text := by
  induction text with
  | nil => rfl
  | cons c rest ih =>
    obtain ⟨here, later⟩ := List.forall_mem_cons.1 printable
    have noReturn : c ≠ '\r' := by
      rintro rfl
      exact absurd here (by decide)
    have noNextLine : c ≠ '\u0085' := by
      rintro rfl
      exact absurd here (by decide)
    rw [normalizeBreaks.eq_def]
    split
    case h_1 same => exact absurd (List.cons.inj same).1 noReturn
    case h_2 same =>
      obtain ⟨rfl, rfl⟩ := List.cons.inj same
      rw [ih later]
      simp [noReturn, noNextLine]
    case h_3 same => cases same

/-- **A printed mapping is read as its tokens.** -/
theorem scan_print {depth : Nat} {fields : List (String × Data)} (nonempty : fields ≠ [])
    (each : ∀ field ∈ fields, Textual depth field.2) :
    Token.scan (print (.object fields)).toList = .ok (tokens false (.object fields)) := by
  obtain ⟨field, rest, rfl⟩ := List.exists_cons_of_ne_nil nonempty
  have lines : LinesRead _ 0 _ _ :=
    linesRead_fields nonempty fun field member => (each field member).scannedBack
  let text := recordLines 0 true ((field :: rest).map fun field => (.text field.1, field.2))
  have isText : (print (.object (field :: rest))).toList = text := String.toList_ofList
  have allowed : text.all isAllowed = true :=
    List.all_eq_true.2 fun c member => isAllowed_of_isPrintable (lines.printable c member)
  have whole : text ++ (spaces 0 ++ []) = text := by simp
  have advances : Advances (inBlock true ⟨0, 0, 0⟩ (text ++ (spaces 0 ++ [])) .empty [] none) _ :=
    lines.advances rfl nofun (Nat.le_refl 0) rfl
  rw [whole] at advances
  rw [isText, Token.scan, if_pos allowed, normalizeBreaks_eq_self lines.printable]
  refine (run_of_advances advances).trans ?_
  rw [TokenLog.toList_append]
  rfl

end WorkspaceVolumes.Yaml
