import Mathlib.Data.List.GetD
import Mathlib.Data.List.TakeWhile
import Mathlib.Data.String.Basic
import WorkspaceVolumes.Config.Validation
import WorkspaceVolumes.Naming

/-!
# Names that a cluster accepts

A cluster accepts an object name if it consists of small letters, digits and hyphens, starts and
ends with a letter or a digit, and has at most 63 characters.  The engine makes names from a stem,
a hyphen and eight random characters, so it has to see to the stem alone, and it does so when the
configuration is checked.

**Stems.**  A stem passes just if it is itself such a name, of at most 54 characters: nine fewer,
for the hyphen and the random part.  The check counts bytes, but not before it has seen that every
character is an ASCII one.

**Reading a name back.**  The random part has no hyphen and a fixed length.  So a name can be cut
into its stem and its random part again, and names of different stems never meet.

## Main definitions

* `Alphanumeric`, `LabelChar`: the characters of names.
* `NameStem`, `ObjectName`: the stems that pass, and the names that a cluster accepts.

## Main statements

* `isLabel_iff`: the test of labels against what it tests.
* `validateNameStem_eq_ok_iff`, `NameStem.objectName`: what passes, and what is made of it.
* `generated_names_valid`: both together, and that names can be read back.
-/

namespace WorkspaceVolumes

/-! ## Characters -/

/-- Whether a character is a small ASCII letter or an ASCII digit. -/
def Alphanumeric (c : Char) : Prop := ('a' ≤ c ∧ c ≤ 'z') ∨ ('0' ≤ c ∧ c ≤ '9')

/-- Whether a character may stand in an object name. -/
def LabelChar (c : Char) : Prop := Alphanumeric c ∨ c = '-'

theorem isDigit_iff {c : Char} : c.isDigit = true ↔ '0' ≤ c ∧ c ≤ '9' := by
  change (decide ('0' ≤ c) && decide (c ≤ '9')) = true ↔ _
  rw [Bool.and_eq_true, decide_eq_true_iff, decide_eq_true_iff]

theorem isLower_iff {c : Char} : c.isLower = true ↔ 'a' ≤ c ∧ c ≤ 'z' := by
  change (decide ('a' ≤ c) && decide (c ≤ 'z')) = true ↔ _
  rw [Bool.and_eq_true, decide_eq_true_iff, decide_eq_true_iff]

theorem isLowerAlphanum_iff {c : Char} : isLowerAlphanum c = true ↔ Alphanumeric c := by
  rw [isLowerAlphanum, Bool.or_eq_true, isLower_iff, isDigit_iff, Alphanumeric]

instance (c : Char) : Decidable (Alphanumeric c) := decidable_of_iff _ isLowerAlphanum_iff

theorem Alphanumeric.ne_hyphen {c : Char} (alphanumeric : Alphanumeric c) : c ≠ '-' := by
  rintro rfl
  exact absurd alphanumeric (by decide)

theorem LabelChar.alphanumeric {c : Char} (label : LabelChar c) (other : c ≠ '-') :
    Alphanumeric c := label.resolve_right other

theorem LabelChar.val_le {c : Char} (label : LabelChar c) : c.val ≤ 127 := by
  rcases label with (⟨-, bound⟩ | ⟨-, bound⟩) | rfl
  · exact UInt32.le_trans bound (by decide)
  · exact UInt32.le_trans bound (by decide)
  · decide

theorem Alphanumeric.isBlank_eq_false {c : Char} (alphanumeric : Alphanumeric c) :
    Text.isBlank c = false := by
  have lower : ('0' : Char).toNat ≤ c.toNat := by
    rcases alphanumeric with ⟨bound, -⟩ | ⟨bound, -⟩
    · exact Nat.le_trans (by decide) (UInt32.le_iff_toNat_le.1 bound)
    · exact UInt32.le_iff_toNat_le.1 bound
  have upper : c.toNat ≤ 127 := UInt32.le_iff_toNat_le.1 (LabelChar.val_le (.inl alphanumeric))
  have zero : ('0' : Char).toNat = 48 := rfl
  rw [zero] at lower
  simp only [Text.isBlank, Bool.or_eq_false_iff, Bool.and_eq_false_iff, decide_eq_false_iff_not]
  omega

/-- In ASCII every character is one byte. -/
theorem utf8ByteSize_eq_length {text : String} (ascii : ∀ c ∈ text.toList, c.val ≤ 127) :
    text.utf8ByteSize = text.length := by
  rw [← String.ofList_toList (s := text), String.utf8ByteSize_ofList, String.length_ofList]
  revert ascii
  generalize text.toList = chars
  intro ascii
  induction chars with
  | nil => rfl
  | cons c rest ih =>
    have ⟨first, others⟩ := List.forall_mem_cons.1 ascii
    rw [String.utf8Len_cons, ih others, Char.utf8Size_eq_one_iff.2 first, List.length_cons]

/-- A text that holds something visible is not blank. -/
theorem isEmptyOrBlank_eq_false {text : String} {c : Char} (member : c ∈ text.toList)
    (visible : Text.isBlank c = false) : Text.isEmptyOrBlank text = false := by
  have left : text.toList.dropWhile Text.isBlank ≠ [] := fun nothing =>
    absurd (List.dropWhile_eq_nil_iff.1 nothing c member) (by simp [visible])
  rw [Text.isEmptyOrBlank, Text.trim, List.isEmpty_reverse, ← Bool.not_eq_true, List.isEmpty_iff,
    List.dropWhile_eq_nil_iff]
  intro allBlank
  -- What is left starts with a character that is not blank.
  have starts := List.head_dropWhile_not Text.isBlank left
  exact absurd (allBlank _ (List.mem_reverse.2 (List.head_mem left))) (by simp [starts])

/-! ## Labels -/

theorem getLast?_cons_ne_iff {c hyphen : Char} {rest : List Char} :
    (c :: rest).getLast? ≠ some hyphen ↔
      (rest = [] → c ≠ hyphen) ∧ rest.getLast? ≠ some hyphen := by
  cases rest with
  | nil => simp
  | cons next rest => simp

/-- What follows the first character of a label. -/
theorem continuesLabel_iff {closed : Bool} {text : List Char} :
    continuesLabel closed text = true ↔
      (∀ c ∈ text, LabelChar c) ∧ (text = [] → closed = true) ∧ text.getLast? ≠ some '-' := by
  induction text generalizing closed with
  | nil => simp [continuesLabel]
  | cons c rest ih =>
    rw [continuesLabel, List.forall_mem_cons, getLast?_cons_ne_iff]
    by_cases alphanumeric : Alphanumeric c
    · rw [if_pos (isLowerAlphanum_iff.2 alphanumeric), ih]
      have closes : rest = [] → c ≠ '-' := fun _ => alphanumeric.ne_hyphen
      have label : LabelChar c := .inl alphanumeric
      exact ⟨fun ⟨chars, _, last⟩ => ⟨⟨label, chars⟩, nofun, closes, last⟩,
        fun ⟨⟨_, chars⟩, _, _, last⟩ => ⟨chars, fun _ => rfl, last⟩⟩
    · rw [if_neg (mt isLowerAlphanum_iff.1 alphanumeric), Bool.and_eq_true, decide_eq_true_iff, ih]
      constructor
      · rintro ⟨rfl, chars, goesOn, last⟩
        exact ⟨⟨.inr rfl, chars⟩, nofun, fun isEmpty => (nomatch goesOn isEmpty), last⟩
      · rintro ⟨⟨label, chars⟩, -, goesOn, last⟩
        have hyphen := label.resolve_left alphanumeric
        exact ⟨hyphen, chars, fun isEmpty => absurd hyphen (goesOn isEmpty), last⟩

/-- **A label** is a text of letters, digits and hyphens with neither end a hyphen. -/
theorem isLabel_iff {text : List Char} :
    isLabel text = true ↔
      text ≠ [] ∧ (∀ c ∈ text, LabelChar c) ∧ text.head? ≠ some '-' ∧
        text.getLast? ≠ some '-' := by
  cases text with
  | nil => simp [isLabel]
  | cons c rest =>
    rw [isLabel, Bool.and_eq_true, isLowerAlphanum_iff, continuesLabel_iff, List.forall_mem_cons,
      getLast?_cons_ne_iff]
    constructor
    · rintro ⟨first, chars, -, last⟩
      exact ⟨List.cons_ne_nil _ _, ⟨.inl first, chars⟩, by simpa using first.ne_hyphen,
        fun _ => first.ne_hyphen, last⟩
    · rintro ⟨-, ⟨label, chars⟩, first, -, last⟩
      exact ⟨label.alphanumeric (by simpa using first), chars, fun _ => rfl, last⟩

/-! ## Stems -/

/-- Whether names may be made from a stem. -/
structure NameStem (stem : String) : Prop where
  nonempty : 1 ≤ stem.length
  short : stem.length ≤ 54
  chars : ∀ c ∈ stem.toList, LabelChar c
  first : stem.toList.head? ≠ some '-'
  last : stem.toList.getLast? ≠ some '-'

/-- A stem passes if names may be made from it. -/
theorem validateNameStem_eq_ok_iff {stem : String} :
    validateNameStem stem = .ok () ↔ NameStem stem := by
  have filled : stem.toList ≠ [] ↔ 1 ≤ stem.length := by
    rw [← List.length_pos_iff, String.length_toList]
    rfl
  constructor
  · intro accepted
    rw [validateNameStem] at accepted
    split_ifs at accepted with blank malformed long
    obtain ⟨nonempty, chars, first, last⟩ := isLabel_iff.1 (by simpa using malformed)
    have size := utf8ByteSize_eq_length fun c member => (chars c member).val_le
    exact ⟨filled.1 nonempty, size ▸ Nat.not_lt.1 long, chars, first, last⟩
  · rintro ⟨nonempty, short, chars, first, last⟩
    have label := isLabel_iff.2 ⟨filled.2 nonempty, chars, first, last⟩
    have size := utf8ByteSize_eq_length fun c member => (chars c member).val_le
    have visible : Text.isEmptyOrBlank stem = false := by
      obtain ⟨c, rest, same⟩ := List.exists_cons_of_ne_nil (filled.2 nonempty)
      have member : c ∈ stem.toList := same ▸ List.mem_cons_self
      have other : c ≠ '-' := fun hyphen => first (by rw [same, hyphen]; rfl)
      exact isEmptyOrBlank_eq_false member
        ((chars c member).alphanumeric other).isBlank_eq_false
    have fits : ¬ maxNameStemLength < stem.utf8ByteSize := Nat.not_lt.2 (size ▸ short)
    rw [validateNameStem, visible, label, if_neg fits]
    rfl

/-! ## Generated names -/

/-- The characters of the random part of a name. -/
def suffixChars (draws : DrawStream) : List Char := (draws.peek nameSuffixLength).map suffixChar

theorem length_suffixChars (draws : DrawStream) : (suffixChars draws).length = 8 := by
  rw [suffixChars, List.length_map, DrawStream.length_peek]
  rfl

theorem alphanumeric_suffixChar (draw : Nat) : Alphanumeric (suffixChar draw) := by
  have all : suffixAlphabet.all isLowerAlphanum = true := by decide
  have bound : draw % suffixAlphabet.length < suffixAlphabet.length := Nat.mod_lt _ (by decide)
  rw [suffixChar, List.getD_eq_getElem _ _ bound]
  exact isLowerAlphanum_iff.1 (List.all_eq_true.1 all _ (List.getElem_mem bound))

theorem alphanumeric_of_mem_suffixChars {draws : DrawStream} {c : Char}
    (member : c ∈ suffixChars draws) : Alphanumeric c := by
  obtain ⟨draw, -, rfl⟩ := List.mem_map.1 member
  exact alphanumeric_suffixChar draw

theorem toList_generateName (stem : String) (draws : DrawStream) :
    (generateName stem draws).1.toList = stem.toList ++ '-' :: suffixChars draws := by
  have parts : (generateName stem draws).1 = stem ++ "-" ++ String.ofList (suffixChars draws) := rfl
  simp only [parts, String.toList_append, String.toList_ofList, List.append_assoc]
  rfl

/-- Whether a cluster accepts a name for an object. -/
structure ObjectName (name : String) : Prop where
  chars : ∀ c ∈ name.toList, LabelChar c
  first : ∃ c, name.toList.head? = some c ∧ Alphanumeric c
  last : ∃ c, name.toList.getLast? = some c ∧ Alphanumeric c
  short : name.length ≤ 63

/-- A name that is made from a stem that passes is accepted. -/
theorem NameStem.objectName {stem : String} (passes : NameStem stem) (draws : DrawStream) :
    ObjectName (generateName stem draws).1 := by
  have parts := toList_generateName stem draws
  constructor
  case chars =>
    intro c member
    rw [parts, List.mem_append, List.mem_cons] at member
    rcases member with inStem | rfl | inSuffix
    · exact passes.chars c inStem
    · exact .inr rfl
    · exact .inl (alphanumeric_of_mem_suffixChars inSuffix)
  case first =>
    have filled : stem.toList ≠ [] := List.ne_nil_of_length_pos (by
      rw [String.length_toList]
      exact passes.nonempty)
    obtain ⟨c, rest, same⟩ := List.exists_cons_of_ne_nil filled
    have label := passes.chars c (same ▸ List.mem_cons_self)
    refine ⟨c, by rw [parts, same]; rfl, label.alphanumeric fun hyphen => ?_⟩
    exact passes.first (by rw [same, hyphen]; rfl)
  case last =>
    have filled : suffixChars draws ≠ [] := List.ne_nil_of_length_pos (by
      rw [length_suffixChars]
      decide)
    refine ⟨_, ?_, alphanumeric_of_mem_suffixChars (List.getLast_mem filled)⟩
    rw [parts, List.getLast?_append, List.getLast?_cons, List.getLast?_eq_some_getLast filled]
    rfl
  case short =>
    have bound := passes.short
    rw [← String.length_toList, parts, List.length_append, List.length_cons, length_suffixChars,
      String.length_toList]
    omega

/-- A name can be cut into its stem and its random part again. -/
theorem generateName_inj {stem other : String} {draws others : DrawStream} :
    (generateName stem draws).1 = (generateName other others).1 ↔
      stem = other ∧ suffixChars draws = suffixChars others := by
  rw [← String.toList_inj, toList_generateName, toList_generateName]
  constructor
  · intro same
    obtain ⟨stems, suffixes⟩ := List.append_inj' same (by simp [length_suffixChars])
    exact ⟨String.toList_inj.1 stems, (List.cons.inj suffixes).2⟩
  · rintro ⟨rfl, same⟩
    rw [same]

/-- **Stems that pass make names that are accepted.**  A stem passes validation if, and only if,
it has between 1 and 54 characters, all of them small letters, digits or hyphens, and neither its
first nor its last is a hyphen.  Whatever random numbers are drawn, a name that is made from a
stem that passes is one that a cluster accepts.  And two names are the same only if their stems are
and their eight random characters are. -/
theorem generated_names_valid (stem : String) :
    (validateNameStem stem = .ok () ↔ NameStem stem) ∧
    (validateNameStem stem = .ok () → ∀ draws, ObjectName (generateName stem draws).1) ∧
    ∀ other draws others, (generateName stem draws).1 = (generateName other others).1 ↔
      stem = other ∧ suffixChars draws = suffixChars others :=
  ⟨validateNameStem_eq_ok_iff,
    fun passes draws => (validateNameStem_eq_ok_iff.1 passes).objectName draws,
    fun _ _ _ => generateName_inj⟩

/-- The longest stem there is makes names that are just short enough, and which differ where the
random numbers do. -/
theorem generated_names_valid_longest :
    let stem := String.ofList (List.replicate 54 '7')
    validateNameStem stem = .ok () ∧
      ObjectName (generateName stem (.cycling #[35, 36])).1 ∧
      (generateName stem (.cycling #[35, 36])).1.length = 63 ∧
      (generateName stem (.cycling #[35, 36])).1 ≠ (generateName stem (.cycling #[36, 35])).1 := by
  intro stem
  obtain ⟨-, accepted, readBack⟩ := generated_names_valid stem
  have passes : validateNameStem stem = .ok () := by decide
  refine ⟨passes, accepted passes _, by decide, fun same => ?_⟩
  exact absurd ((readBack _ _ _).1 same).2 (by decide)

end WorkspaceVolumes
