import Mathlib.Data.Fintype.Option
import WorkspaceVolumes.Proofs.Label

/-!
# Which texts are quantities

Validation reads the capacity of a claim from front to back: digits, perhaps a point and more
digits, perhaps a unit.  Here a quantity is what such a text stands for, with a type that leaves
no room for a malformed one, and validation accepts exactly the texts that quantities are written
as.

**One reading.**  Some units begin like others, as `E` and `Ei`, and a point may or may not
follow.  But a unit starts with neither a digit nor a point, so the digits of a quantity end where
its text first has something else, and each text is that of one quantity at most.

## Main definitions

* `Numeral`, `QuantityUnit`, `Quantity`: quantities and their parts.
* `Quantity.text`: how a quantity is written.

## Main statements

* `isQuantity_iff`: the test of validation against the written form.
* `Quantity.chars_injective`: a written form is that of one quantity.
* `validateQuantity_exact`: what validation accepts, and how it refuses.
-/

namespace WorkspaceVolumes

/-! ## Quantities -/

/-- At least one ASCII digit. -/
@[ext] structure Numeral where
  digits : List Char
  nonempty : digits ≠ []
  areDigits : ∀ c ∈ digits, '0' ≤ c ∧ c ≤ '9'

/-- A unit, by powers of 1024 and by powers of 1000. -/
inductive QuantityUnit
  | kibi | mebi | gibi | tebi | pebi | exbi
  | kilo | mega | giga | tera | peta | exa
  deriving DecidableEq

instance : Fintype QuantityUnit :=
  .ofList [.kibi, .mebi, .gibi, .tebi, .pebi, .exbi, .kilo, .mega, .giga, .tera, .peta, .exa]
    fun unit => by cases unit <;> decide

/-- The symbol of a unit. -/
def QuantityUnit.symbol : QuantityUnit → String
  | kibi => "Ki"
  | mebi => "Mi"
  | gibi => "Gi"
  | tebi => "Ti"
  | pebi => "Pi"
  | exbi => "Ei"
  | kilo => "k"
  | mega => "M"
  | giga => "G"
  | tera => "T"
  | peta => "P"
  | exa => "E"

/-- A decimal number, perhaps with a fraction, perhaps with a unit. -/
@[ext] structure Quantity where
  whole : Numeral
  fraction : Option Numeral
  unit : Option QuantityUnit

/-- The characters of a unit, of which there are none if there is no unit. -/
def unitChars : Option QuantityUnit → List Char
  | none => []
  | some unit => unit.symbol.toList

/-- The characters of a fraction with the point before it. -/
def fractionChars : Option Numeral → List Char
  | none => []
  | some fraction => '.' :: fraction.digits

namespace Quantity

/-- The characters of a quantity. -/
def chars (quantity : Quantity) : List Char :=
  quantity.whole.digits ++ (fractionChars quantity.fraction ++ unitChars quantity.unit)

/-- How a quantity is written. -/
def text (quantity : Quantity) : String := String.ofList quantity.chars

end Quantity

/-! ## Digits and what follows them -/

theorem Numeral.isDigit_of_mem (numeral : Numeral) {c : Char} (member : c ∈ numeral.digits) :
    c.isDigit = true := isDigit_iff.2 (numeral.areDigits c member)

/-- The digits that a text starts with, if it does start with one. -/
def Numeral.ofHead (text : List Char) (starts : text.head?.any Char.isDigit = true) : Numeral where
  digits := text.takeWhile Char.isDigit
  nonempty := by
    cases text with
    | nil => cases starts
    | cons c rest =>
      rw [List.takeWhile_cons_of_pos (by exact starts)]
      exact List.cons_ne_nil _ _
  areDigits _ member := isDigit_iff.1 (List.mem_takeWhile_imp member)

/-- Whether a text starts with something other than a digit, if with anything. -/
def StopsDigits (rest : List Char) : Prop := ∀ c ∈ rest.head?, c.isDigit = false

section

variable {rest : List Char} (numeral : Numeral) (stops : StopsDigits rest)

include stops

theorem StopsDigits.takeWhile_eq_nil : rest.takeWhile Char.isDigit = [] := by
  cases rest with
  | nil => rfl
  | cons c rest => exact List.takeWhile_cons_of_neg (by simp [stops c rfl])

theorem StopsDigits.dropWhile_eq_self : rest.dropWhile Char.isDigit = rest := by
  cases rest with
  | nil => rfl
  | cons c rest => exact List.dropWhile_cons_of_neg (by simp [stops c rfl])

theorem Numeral.takeWhile_append :
    (numeral.digits ++ rest).takeWhile Char.isDigit = numeral.digits := by
  rw [List.takeWhile_append_of_pos fun _ => numeral.isDigit_of_mem, stops.takeWhile_eq_nil,
    List.append_nil]

theorem Numeral.dropWhile_append : (numeral.digits ++ rest).dropWhile Char.isDigit = rest := by
  rw [List.dropWhile_append_of_pos fun _ => numeral.isDigit_of_mem, stops.dropWhile_eq_self]

/-- A text that starts with a numeral, followed by something else, starts with no other. -/
theorem Numeral.append_inj {other : Numeral} {otherRest : List Char}
    (stopsOther : StopsDigits otherRest)
    (same : numeral.digits ++ rest = other.digits ++ otherRest) :
    numeral = other ∧ rest = otherRest := by
  constructor
  · have taken := congrArg (List.takeWhile Char.isDigit) same
    rw [numeral.takeWhile_append stops, other.takeWhile_append stopsOther] at taken
    exact Numeral.ext taken
  · have left := congrArg (List.dropWhile Char.isDigit) same
    rwa [numeral.dropWhile_append stops, other.dropWhile_append stopsOther] at left

end

theorem Numeral.head?_any_append (numeral : Numeral) (rest : List Char) :
    (numeral.digits ++ rest).head?.any Char.isDigit = true := by
  obtain ⟨c, others, same⟩ := List.exists_cons_of_ne_nil numeral.nonempty
  have isDigit := numeral.isDigit_of_mem (same ▸ List.mem_cons_self)
  rw [same]
  exact isDigit

/-! ## Units -/

theorem isUnit_iff {text : List Char} : isUnit text = true ↔ ∃ unit, unitChars unit = text := by
  constructor
  · intro accepted
    rcases Bool.or_eq_true_iff.1 accepted with isEmpty | known
    · exact ⟨none, (List.isEmpty_iff.1 isEmpty).symm⟩
    · obtain ⟨symbol, member, same⟩ := List.any_eq_true.1 known
      obtain rfl := of_decide_eq_true same
      have all : ∀ symbol ∈ quantityUnits, ∃ unit : QuantityUnit, unit.symbol = symbol := by decide
      obtain ⟨unit, rfl⟩ := all symbol member
      exact ⟨some unit, rfl⟩
  · rintro ⟨unit, rfl⟩
    revert unit
    decide

theorem unitChars_injective : Function.Injective unitChars := by decide

/-- A unit starts with neither a digit nor a point. -/
theorem head_unitChars (unit : Option QuantityUnit) :
    ∀ c ∈ (unitChars unit).head?, c.isDigit = false ∧ c ≠ '.' := by
  have all : ∀ unit, (unitChars unit).head?.all (fun c => !c.isDigit && c ≠ '.') = true := by decide
  intro c first
  simpa using (Option.all_eq_true _ _).1 (all unit) c first

theorem stopsDigits_unitChars (unit : Option QuantityUnit) : StopsDigits (unitChars unit) :=
  fun c first => (head_unitChars unit c first).1

theorem unitChars_ne_point (unit : Option QuantityUnit) (rest : List Char) :
    unitChars unit ≠ '.' :: rest := fun same =>
  (head_unitChars unit '.' (by rw [same]; rfl)).2 rfl

theorem stopsDigits_fractionChars_append (fraction : Option Numeral) (unit : Option QuantityUnit) :
    StopsDigits (fractionChars fraction ++ unitChars unit) := by
  cases fraction with
  | none => exact stopsDigits_unitChars unit
  | some fraction =>
    rintro c ⟨⟩
    rfl

/-! ## Reading -/

/-- **Each quantity is written in its own way.** -/
theorem Quantity.chars_injective : Function.Injective Quantity.chars := by
  intro quantity other same
  obtain ⟨whole, rest⟩ := Numeral.append_inj _
    (stopsDigits_fractionChars_append quantity.fraction quantity.unit)
    (stopsDigits_fractionChars_append other.fraction other.unit) same
  -- A point tells whether there is a fraction, because no unit starts with one.
  suffices behind : quantity.fraction = other.fraction ∧ quantity.unit = other.unit from
    Quantity.ext whole behind.1 behind.2
  cases fraction : quantity.fraction with
  | none =>
    cases otherFraction : other.fraction with
    | none =>
      rw [fraction, otherFraction] at rest
      exact ⟨rfl, unitChars_injective rest⟩
    | some digits =>
      rw [fraction, otherFraction] at rest
      exact absurd rest (unitChars_ne_point _ _)
  | some digits =>
    cases otherFraction : other.fraction with
    | none =>
      rw [fraction, otherFraction] at rest
      exact absurd rest.symm (unitChars_ne_point _ _)
    | some otherDigits =>
      rw [fraction, otherFraction] at rest
      obtain ⟨rfl, units⟩ := Numeral.append_inj digits (stopsDigits_unitChars quantity.unit)
        (stopsDigits_unitChars other.unit) (List.cons.inj rest).2
      exact ⟨rfl, unitChars_injective units⟩

/-- What may follow the digits of a quantity. -/
theorem isQuantity_tail_iff {rest : List Char} :
    (match rest with
      | '.' :: fraction =>
        fraction.head?.any Char.isDigit && isUnit (fraction.dropWhile Char.isDigit)
      | rest => isUnit rest) = true ↔
      ∃ fraction unit, fractionChars fraction ++ unitChars unit = rest := by
  constructor
  · intro accepted
    split at accepted
    case h_1 fraction =>
      obtain ⟨starts, ends⟩ := Bool.and_eq_true_iff.1 accepted
      obtain ⟨unit, behind⟩ := isUnit_iff.1 ends
      refine ⟨some (.ofHead fraction starts), unit, ?_⟩
      rw [behind]
      exact congrArg ('.' :: ·) List.takeWhile_append_dropWhile
    case h_2 =>
      obtain ⟨unit, same⟩ := isUnit_iff.1 accepted
      exact ⟨none, unit, same⟩
  · rintro ⟨fraction, unit, rfl⟩
    cases fraction with
    | none =>
      split
      case h_1 rest same => exact absurd same (unitChars_ne_point unit rest)
      case h_2 => exact isUnit_iff.2 ⟨unit, rfl⟩
    | some fraction =>
      have behind := fraction.dropWhile_append (stopsDigits_unitChars unit)
      exact Bool.and_eq_true_iff.2
        ⟨fraction.head?_any_append _, (congrArg isUnit behind).trans (isUnit_iff.2 ⟨unit, rfl⟩)⟩

/-- The test accepts the written forms and nothing else. -/
theorem isQuantity_iff {text : List Char} :
    isQuantity text = true ↔ ∃ quantity : Quantity, quantity.chars = text := by
  rw [isQuantity, Bool.and_eq_true_iff]
  refine (and_congr_right fun _ => isQuantity_tail_iff).trans ⟨?_, ?_⟩
  · rintro ⟨starts, fraction, unit, behind⟩
    refine ⟨⟨.ofHead text starts, fraction, unit⟩, ?_⟩
    rw [Quantity.chars, behind]
    exact List.takeWhile_append_dropWhile
  · rintro ⟨quantity, rfl⟩
    have stops := stopsDigits_fractionChars_append quantity.fraction quantity.unit
    exact ⟨quantity.whole.head?_any_append _, quantity.fraction, quantity.unit,
      (quantity.whole.dropWhile_append stops).symm⟩

/-- **Validation accepts exactly the quantities.**  A text passes if, and only if, it is how some
quantity is written; any other is refused as a fault of the configuration that quotes it.  And no
two quantities are written alike, so a text that passes has one reading. -/
theorem validateQuantity_exact (text : String) :
    (validateQuantity text = .ok () ↔ ∃ quantity : Quantity, quantity.text = text) ∧
    (∀ error, validateQuantity text = .error error →
      error.kind = .config ∧ error = .config (.malformedQuantity text)) ∧
    ∀ quantity other : Quantity, quantity.text = text → other.text = text → quantity = other := by
  refine ⟨?_, ?_, ?_⟩
  · have written (quantity : Quantity) : quantity.chars = text.toList ↔ quantity.text = text := by
      rw [Quantity.text, ← String.toList_inj, String.toList_ofList]
    simp only [← written, ← isQuantity_iff]
    rw [validateQuantity]
    split <;> simp [*]
  · intro error refused
    rw [validateQuantity] at refused
    split at refused
    · cases refused
    · cases refused
      exact ⟨rfl, rfl⟩
  · rintro quantity other rfl same
    have chars := String.ofList_injective same
    exact (Quantity.chars_injective chars).symm

/-- A quantity with all three parts, the unit of which begins like another one; and a text that
would be a quantity but for the line break behind it. -/
theorem validateQuantity_exact_exbi :
    validateQuantity "1.5Ei" = .ok () ∧
    (∀ quantity : Quantity, quantity.text = "1.5Ei" → quantity.unit = some .exbi) ∧
    validateQuantity "1.5E\n" = .error (.config (.malformedQuantity "1.5E\n")) ∧
    (VolumeError.config (.malformedQuantity "1.5E\n")).kind = .config := by
  obtain ⟨accepts, -, unique⟩ := validateQuantity_exact "1.5Ei"
  let digit (c : Char) (isDigit : '0' ≤ c ∧ c ≤ '9') : Numeral :=
    ⟨[c], List.cons_ne_nil _ _, List.forall_mem_singleton.2 isDigit⟩
  let read : Quantity := ⟨digit '1' (by decide), some (digit '5' (by decide)), some .exbi⟩
  have written : read.text = "1.5Ei" := by decide
  have refused : validateQuantity "1.5E\n" = .error (.config (.malformedQuantity "1.5E\n")) := by
    decide
  refine ⟨accepts.2 ⟨read, written⟩, fun quantity same => ?_, refused,
    ((validateQuantity_exact _).2.1 _ refused).1⟩
  rw [unique quantity read same written]

end WorkspaceVolumes
