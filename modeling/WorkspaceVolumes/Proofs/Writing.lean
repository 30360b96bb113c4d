import Mathlib.Data.String.Basic
import WorkspaceVolumes.Proofs.Lexeme

/-!
# What is written of a string

The printer chooses a style for a string and writes it.  This module settles what is written
as far as it does not depend on what reads it.

**The choice.**  Readers rely on what a string does not hold.  A style is chosen only for
strings that can stand in it, so no string is written in a way that a reader takes for
something else.

**Keys.**  A key that is written before its colon has to be found from there: it stays on its
line, and the reader looks back only so far.  In double quotes each character may become an
escape, which is at most four times as long, and so a key of limited length stays within
reach.

## Main statements

* `ScalarStyle.standsPlain`, `ScalarStyle.standsSingleQuoted`, `ScalarStyle.standsLiteral`:
  what a chosen style says of a string.
* `isPrintable_of_mem_scalarText`, `isBreak_of_mem_scalarText`: the characters that are
  written.
* `utf8Len_scalarText_le`: how much longer than a key its written form is.
* `column_afterAll_scalarLine`: a value that is written ends its line.
-/

namespace WorkspaceVolumes.Yaml

/-! ## The choice of a style -/

namespace ScalarStyle

variable {asKey : Bool} {text : List Char}

/-- The style of a string that cannot be literal is a matter of quotes. -/
theorem ofText_cases (asKey : Bool) (text : List Char) :
    ofText asKey text = .doubleQuoted ∨
    (ofText asKey text = .literal ∧ (Traits.ofText text).literal = true) ∨
    ('\n' ∉ text ∧
      ((ofText asKey text = .singleQuoted ∧ (Traits.ofText text).singleQuoted = true) ∨
        (ofText asKey text = .plain ∧ needsQuotes text = false ∧
          (Traits.ofText text).plain = true))) := by
  dsimp only [ofText]
  split_ifs <;> simp_all

theorem standsPlain (isPlain : ofText asKey text = .plain) :
    StandsPlain text ∧ needsQuotes text = false := by
  rcases ofText_cases asKey text with other | ⟨other, -⟩ | ⟨-, ⟨other, -⟩ | ⟨-, noQuotes, stands⟩⟩
  · cases other.symm.trans isPlain
  · cases other.symm.trans isPlain
  · cases other.symm.trans isPlain
  · have nonempty : text ≠ [] := by
      rintro rfl
      exact absurd noQuotes (by decide)
    simp only [Traits.ofText, Bool.not_eq_true', Bool.or_eq_false_iff] at stands
    obtain ⟨⟨⟨⟨oneLine, printable⟩, ⟨noMarker, noIndicator⟩, holdsNone⟩, starts⟩, ends⟩ := stands
    exact ⟨⟨nonempty, by simpa using oneLine, by simpa using printable, noMarker, noIndicator,
      holdsNone, starts, ends⟩, noQuotes⟩

theorem standsSingleQuoted (isQuoted : ofText asKey text = .singleQuoted) :
    StandsSingleQuoted text := by
  rcases ofText_cases asKey text with other | ⟨other, -⟩ | ⟨noLineFeed, ⟨-, stands⟩ | ⟨other, -⟩⟩
  · cases other.symm.trans isQuoted
  · cases other.symm.trans isQuoted
  · simp only [Traits.ofText, Bool.not_eq_true', Bool.or_eq_false_iff] at stands
    obtain ⟨⟨printable, spaceBreak⟩, breakSpace⟩ := stands
    exact ⟨by simpa using printable, noLineFeed, spaceBreak, breakSpace⟩
  · cases other.symm.trans isQuoted

theorem standsLiteral (isLiteral : ofText asKey text = .literal) :
    text ≠ [] ∧ ∀ c ∈ text, isPrintable c := by
  rcases ofText_cases asKey text with other | ⟨-, stands⟩ | ⟨-, ⟨other, -⟩ | ⟨other, -⟩⟩
  · cases other.symm.trans isLiteral
  · simp only [Traits.ofText, Bool.not_eq_true', Bool.or_eq_false_iff] at stands
    obtain ⟨⟨⟨nonempty, printable⟩, -⟩, -⟩ := stands
    exact ⟨by simpa using nonempty, by simpa using printable⟩
  · cases other.symm.trans isLiteral
  · cases other.symm.trans isLiteral

theorem ofText_ne_folded (asKey : Bool) (text : List Char) : ofText asKey text ≠ .folded := by
  rcases ofText_cases asKey text with other | ⟨other, -⟩ | ⟨-, ⟨other, -⟩ | ⟨other, -⟩⟩ <;>
    exact other ▸ nofun

/-- A string of one line is written as a key as elsewhere. -/
theorem ofText_true (oneLine : ∀ c ∈ text, isBreak c = false) :
    ofText true text = ofText false text := by
  have single : (Traits.ofText text).multiline = false := by simpa [Traits.ofText] using oneLine
  have noLineFeed : '\n' ∉ text := fun member => absurd (oneLine '\n' member) (by decide)
  simp [ofText, single, noLineFeed]

end ScalarStyle

/-! ## The characters that are written -/

theorem mem_singleQuotedBody {indent : Nat} {afterBreak : Bool} {text : List Char} {c : Char}
    (member : c ∈ singleQuotedBody indent afterBreak text) :
    c ∈ text ∨ c ∈ ['\n', ' ', '\''] := by
  have isSpace {count : Nat} (member : c ∈ spaces count) : c ∈ ['\n', ' ', '\''] := by
    rw [List.eq_of_mem_replicate member]
    decide
  induction text generalizing afterBreak with
  | nil =>
    rw [singleQuotedBody] at member
    split at member
    · exact .inr (isSpace member)
    · cases member
  | cons d text ih =>
    rw [singleQuotedBody] at member
    have rest (member : c ∈ text ∨ c ∈ ['\n', ' ', '\'']) :
        c ∈ d :: text ∨ c ∈ ['\n', ' ', '\''] := member.imp_left (List.mem_cons_of_mem d)
    split at member
    case isTrue =>
      rcases List.mem_append.1 member with here | later
      · split at here <;> simp_all
      · exact rest (ih later)
    case isFalse =>
      rcases List.mem_append.1 member with here | later
      · rcases List.mem_append.1 here with lead | here
        · split at lead
          · exact .inr (isSpace lead)
          · cases lead
        · split at here <;> simp_all
      · exact rest (ih later)

theorem mem_literalLines {indent : Nat} {afterBreak : Bool} {text : List Char} {c : Char}
    (member : c ∈ literalLines indent afterBreak text) : c ∈ text ∨ c = ' ' := by
  induction text generalizing afterBreak with
  | nil => cases member
  | cons d text ih =>
    have rest (member : c ∈ text ∨ c = ' ') : c ∈ d :: text ∨ c = ' ' :=
      member.imp_left (List.mem_cons_of_mem d)
    rw [literalLines] at member
    split at member
    case isTrue =>
      rcases List.mem_cons.1 member with rfl | later
      · exact .inl List.mem_cons_self
      · exact rest (ih later)
    case isFalse =>
      rcases List.mem_append.1 member with lead | later
      · split at lead
        · exact .inr (List.eq_of_mem_replicate lead)
        · cases lead
      · rcases List.mem_cons.1 later with rfl | later
        · exact .inl List.mem_cons_self
        · exact rest (ih later)

theorem mem_literalMarks {text : List Char} {c : Char} (member : c ∈ literalMarks text) :
    c ∈ ['2', '-', '+'] := by
  have marks (hides : Bool) (chomping : Chomping) :
      (if hides then ['2'] else []) ++ chomping.mark ⊆ ['2', '-', '+'] := by
    cases hides <;> cases chomping <;> simp [Chomping.mark]
  rw [literalMarks, chompingMark_eq] at member
  exact marks (hidesIndent text) _ member

theorem mem_quoted {quote c : Char} {inside : List Char}
    (member : c ∈ quote :: inside ++ [quote]) : c = quote ∨ c ∈ inside := by
  rw [List.cons_append, List.mem_cons, List.mem_append, List.mem_singleton] at member
  exact member.elim .inl (Or.symm ·)

/-- What is written in double quotes is visible, whatever the string is. -/
theorem visible_of_mem_doubleQuoted {text : List Char} {c : Char}
    (member : c ∈ doubleQuoted text) : isPrintable c ∧ isBreak c = false := by
  rcases mem_quoted member with rfl | inside
  · decide
  obtain ⟨d, -, here⟩ := List.mem_flatMap.1 inside
  split at here
  case isTrue unescaped =>
    obtain rfl := List.mem_singleton.1 here
    simp only [isUnescaped, Bool.and_eq_true, Bool.not_eq_true'] at unescaped
    exact unescaped.1.1
  case isFalse =>
    rcases List.mem_cons.1 here with rfl | escaped
    · decide
    · exact visible_of_mem_escapeOf escaped

/-- Whatever is written of a string can be printed as it is. -/
theorem isPrintable_of_mem_scalarText {asKey : Bool} {indent : Nat} {text : List Char} {c : Char}
    (member : c ∈ scalarText asKey indent text) : isPrintable c := by
  rw [scalarText] at member
  cases style : ScalarStyle.ofText asKey text with
  | plain =>
    rw [style] at member
    exact (ScalarStyle.standsPlain style).1.printable c member
  | singleQuoted =>
    rw [style, singleQuoted] at member
    have others : ∀ c ∈ ['\n', ' ', '\''], isPrintable c :=
      List.all_iff_forall_prop.1 (by decide)
    rcases mem_quoted member with rfl | inside
    · decide
    · exact (mem_singleQuotedBody inside).elim
        ((ScalarStyle.standsSingleQuoted style).printable c) (others c)
  | doubleQuoted =>
    rw [style] at member
    exact (visible_of_mem_doubleQuoted member).1
  | literal =>
    have marks : ∀ c ∈ ['2', '-', '+'], isPrintable c := List.all_iff_forall_prop.1 (by decide)
    rw [style] at member
    dsimp only at member
    rw [← List.append_nil (literalBlock indent text), literalBlock_append] at member
    simp only [List.mem_cons, List.mem_append, List.append_nil] at member
    rcases member with rfl | inMarks | rfl | inLines
    · decide
    · exact marks c (mem_literalMarks inMarks)
    · decide
    · rcases mem_literalLines inLines with inText | rfl
      · exact (ScalarStyle.standsLiteral style).2 c inText
      · decide
  | folded => exact absurd style (ScalarStyle.ofText_ne_folded _ _)

/-! ## The first character -/

/-- What stands plain begins with a visible character, which is no indicator there. -/
theorem of_standsPlain_cons {c : Char} {text : List Char} (stands : StandsPlain (c :: text)) :
    (isSpaceOrTab c = false ∧ isBreak c = false ∧ c ≠ byteOrderMark) ∧
      (isIndicator c = false ∨
        (c = '-' ∨ c = '?' ∨ c = ':') ∧ startsBlankOrEnd text = false) := by
  have isPrintable := stands.printable c List.mem_cons_self
  have visible : c ≠ ' ' := by simpa [isSpace] using stands.starts
  have noMark : c ≠ byteOrderMark := by
    rintro rfl
    exact absurd isPrintable (by decide)
  have noIndicator := stands.noIndicator
  rw [opensAsIndicator, Bool.and_eq_false_iff] at noIndicator
  refine ⟨⟨isSpaceOrTab_eq_false isPrintable visible, stands.oneLine c List.mem_cons_self, noMark⟩,
    noIndicator.imp_right fun isOne => ?_⟩
  simpa [or_iff_not_imp_left, and_comm] using isOne

theorem startsContent_of_standsPlain {text : List Char} (stands : StandsPlain text)
    (rest : List Char) : startsContent (text ++ rest) := by
  obtain ⟨c, text, rfl⟩ := List.exists_cons_of_ne_nil stands.nonempty
  obtain ⟨⟨noBlank, noBreak, noMark⟩, noIndicator⟩ := of_standsPlain_cons stands
  have noComment : c ≠ '#' := by
    rintro rfl
    exact absurd noIndicator (by simp [isIndicator])
  simp [startsContent, noBlank, noBreak, noMark, noComment]

/-- Whatever is written of a string begins with something visible that opens no comment. -/
theorem startsContent_scalarText (asKey : Bool) (indent : Nat) (text rest : List Char) :
    startsContent (scalarText asKey indent text ++ rest) := by
  rw [scalarText]
  cases style : ScalarStyle.ofText asKey text with
  | plain => exact startsContent_of_standsPlain (ScalarStyle.standsPlain style).1 rest
  | singleQuoted | doubleQuoted | literal | folded => rfl

/-! ## Keys -/

section

variable {text : List Char}

/-- A string of one line is not written as a literal block. -/
theorem ScalarStyle.ofText_ne_literal {asKey : Bool} (oneLine : ∀ c ∈ text, isBreak c = false) :
    ofText asKey text ≠ .literal := by
  have noLineFeed : '\n' ∉ text := fun member => absurd (oneLine '\n' member) (by decide)
  dsimp only [ofText]
  split_ifs <;> simp_all

/-- Only quotes are doubled where there are no breaks. -/
theorem singleQuotedBody_of_oneLine {indent : Nat} (oneLine : ∀ c ∈ text, isBreak c = false) :
    singleQuotedBody indent false text =
      text.flatMap fun c => if c = '\'' then ['\'', '\''] else [c] := by
  induction text with
  | nil => rfl
  | cons c text ih =>
    obtain ⟨here, later⟩ := List.forall_mem_cons.1 oneLine
    rw [singleQuotedBody_char here, ih later]
    rfl

theorem singleQuoted_of_oneLine (indent : Nat) (oneLine : ∀ c ∈ text, isBreak c = false) :
    singleQuoted indent text =
      '\'' :: (text.flatMap fun c => if c = '\'' then ['\'', '\''] else [c]) ++ ['\''] := by
  rw [singleQuoted, singleQuotedBody_of_oneLine oneLine]

/-- A string of one line is written on one line. -/
theorem isBreak_of_mem_scalarText {asKey : Bool} {indent : Nat}
    (oneLine : ∀ c ∈ text, isBreak c = false) {c : Char}
    (member : c ∈ scalarText asKey indent text) : isBreak c = false := by
  rw [scalarText] at member
  cases style : ScalarStyle.ofText asKey text with
  | plain =>
    rw [style] at member
    exact oneLine c member
  | singleQuoted =>
    rw [style] at member
    dsimp only at member
    rw [singleQuoted_of_oneLine indent oneLine] at member
    rcases mem_quoted member with rfl | inside
    · rfl
    · obtain ⟨d, inText, here⟩ := List.mem_flatMap.1 inside
      split at here
      · obtain rfl : c = '\'' := by simpa using here
        rfl
      · exact List.mem_singleton.1 here ▸ oneLine d inText
  | doubleQuoted =>
    rw [style] at member
    exact (visible_of_mem_doubleQuoted member).2
  | literal => exact absurd style (ScalarStyle.ofText_ne_literal oneLine)
  | folded => exact absurd style (ScalarStyle.ofText_ne_folded _ _)

/-- The size of a character by its code point. -/
theorem utf8Size_eq (c : Char) :
    c.utf8Size = if c.toNat ≤ 0x7F then 1 else if c.toNat ≤ 0x7FF then 2
      else if c.toNat ≤ 0xFFFF then 3 else 4 := by
  simp only [Char.utf8Size, UInt32.le_iff_toNat_le]
  rfl

theorem utf8Len_fixedDigits (count number : Nat) :
    String.utf8Len (Text.fixedDigits Text.capitalHex count number) = count := by
  have digits : ∀ c ∈ Text.capitalHex, c.utf8Size = 1 := List.all_iff_forall_prop.1 (by decide)
  induction count generalizing number with
  | zero => rfl
  | succ count ih =>
    have inside : number % 16 < Text.capitalHex.length := Nat.mod_lt _ (by decide)
    have last : (Text.capitalHex.getD (number % 16) '0').utf8Size = 1 := by
      rw [List.getD_eq_getElem?_getD, List.getElem?_eq_getElem inside, Option.getD_some]
      exact digits _ (List.getElem_mem inside)
    rw [fixedDigits_succ, String.utf8Len_append, ih, String.utf8Len_cons, String.utf8Len_nil, last,
      Nat.zero_add]

/-- With its backslash, an escape is at most four times as long as its character. -/
theorem utf8Len_escapeOf_lt (c : Char) : String.utf8Len (escapeOf c) < 4 * c.utf8Size := by
  unfold escapeOf
  split
  case h_15 =>
    rw [utf8Size_eq]
    dsimp only
    split_ifs <;> rw [String.utf8Len_cons, utf8Len_fixedDigits] <;> first | decide | omega
  all_goals decide

theorem utf8Len_flatMap_le {write : Char → List Char}
    (bound : ∀ c, String.utf8Len (write c) ≤ 4 * c.utf8Size) (text : List Char) :
    String.utf8Len (text.flatMap write) ≤ 4 * String.utf8Len text := by
  induction text with
  | nil => exact Nat.le_refl _
  | cons c text ih =>
    have here := bound c
    rw [List.flatMap_cons, String.utf8Len_append, String.utf8Len_cons]
    omega

theorem utf8Len_quoted {quote : Char} (ascii : quote.utf8Size = 1) (inside : List Char) :
    String.utf8Len (quote :: inside ++ [quote]) = String.utf8Len inside + 2 := by
  simp [ascii]

/-- A string of one line is, quotes aside, at most four times as long when it is written. -/
theorem utf8Len_scalarText_le {asKey : Bool} {indent : Nat}
    (oneLine : ∀ c ∈ text, isBreak c = false) :
    String.utf8Len (scalarText asKey indent text) ≤ 4 * String.utf8Len text + 2 := by
  rw [scalarText]
  cases style : ScalarStyle.ofText asKey text with
  | plain =>
    dsimp only
    omega
  | singleQuoted =>
    dsimp only
    rw [singleQuoted_of_oneLine indent oneLine, utf8Len_quoted rfl]
    refine Nat.add_le_add_right (utf8Len_flatMap_le (fun c => ?_) text) 2
    split
    case isTrue isQuote =>
      subst isQuote
      decide
    case isFalse =>
      rw [String.utf8Len_cons, String.utf8Len_nil]
      omega
  | doubleQuoted =>
    dsimp only
    rw [doubleQuoted, utf8Len_quoted rfl]
    refine Nat.add_le_add_right (utf8Len_flatMap_le (fun c => ?_) text) 2
    split
    · rw [String.utf8Len_cons, String.utf8Len_nil]
      omega
    · have shorter := utf8Len_escapeOf_lt c
      have backslash : '\\'.utf8Size = 1 := rfl
      rw [String.utf8Len_cons]
      omega
  | literal => exact absurd style (ScalarStyle.ofText_ne_literal oneLine)
  | folded => exact absurd style (ScalarStyle.ofText_ne_folded _ _)

/-- No document starts at a plain key. -/
theorem startsMarker_colon (noMarker : opensAsMarker text = false) (rest : List Char) :
    startsMarker (text ++ ':' :: rest) = false := by
  match text with
  | [] | [_] | [_, _] =>
    simp [startsMarker]
  | a :: b :: c :: more =>
    unfold startsMarker
    split
    case h_1 same =>
      obtain ⟨rfl, rfl, rfl, -⟩ : a = '-' ∧ b = '-' ∧ c = '-' ∧ _ := by simpa using same
      cases noMarker
    case h_2 same =>
      obtain ⟨rfl, rfl, rfl, -⟩ : a = '.' ∧ b = '.' ∧ c = '.' ∧ _ := by simpa using same
      cases noMarker
    case h_3 => rfl

end

/-! ## Lines -/

theorem scalarLine_eq (indent : Nat) (text : List Char) :
    scalarLine indent text = scalarText false indent text ++
      if ScalarStyle.ofText false text = .literal then literalEnd text else ['\n'] := by
  rw [scalarLine, literalEnd]
  split <;> split <;> simp_all

/-- The text of a literal block ends its line, or what is put behind it does. -/
theorem column_afterAll_literalEnd {position : Position} (lineStart : position.column = 0)
    (indent : Nat) {text : List Char} (nonempty : text ≠ []) :
    (position.afterAll (literalLines indent true text ++ literalEnd text)).column = 0 := by
  obtain ⟨text, last, rfl⟩ := (List.eq_nil_or_concat text).resolve_left nonempty
  rw [List.concat_eq_append, literalEnd, List.getLast?_append, List.getLast?_singleton]
  by_cases ends : isBreak last
  case pos =>
    have inLine := BlockLines.fst_foldl_next (false, .start) text last
    obtain ⟨-, broken⟩ := @blockLines_literalLines indent position [] (false, .start)
      (text ++ [last]) fun _ => lineStart
    simp only [Option.some_or, Option.any_some, ends, if_true, List.append_nil]
    exact broken (by rw [inLine, ends]; rfl)
  case neg =>
    simp only [Option.some_or, Option.any_some, ends, Position.afterAll_append]
    rfl

/-- Whatever is written of a string as a value ends its line. -/
theorem column_afterAll_scalarLine (position : Position) (indent : Nat) (text : List Char) :
    (position.afterAll (scalarLine indent text)).column = 0 := by
  rw [scalarLine_eq]
  split
  case isTrue isLiteral =>
    rw [scalarText, isLiteral]
    dsimp only
    rw [literalBlock_append, Position.afterAll_cons, Position.afterAll_append,
      Position.afterAll_cons]
    exact column_afterAll_literalEnd rfl indent (ScalarStyle.standsLiteral isLiteral).1
  case isFalse =>
    rw [Position.afterAll_append]
    rfl

theorem eq_of_mem_literalEnd {text : List Char} {c : Char} (member : c ∈ literalEnd text) :
    c = '\n' := by
  rw [literalEnd] at member
  split at member
  · cases member
  · exact List.mem_singleton.1 member

theorem isPrintable_of_mem_scalarLine {indent : Nat} {text : List Char} {c : Char}
    (member : c ∈ scalarLine indent text) : isPrintable c := by
  rw [scalarLine_eq] at member
  rcases List.mem_append.1 member with inside | last
  · exact isPrintable_of_mem_scalarText inside
  · have isLast : c = '\n' := by
      split at last
      · exact eq_of_mem_literalEnd last
      · exact List.mem_singleton.1 last
    exact isLast ▸ by decide

theorem startsContent_scalarLine (indent : Nat) (text rest : List Char) :
    startsContent (scalarLine indent text ++ rest) := by
  rw [scalarLine_eq, List.append_assoc]
  exact startsContent_scalarText false indent text _

end WorkspaceVolumes.Yaml
