import WorkspaceVolumes.Config.Basic
import WorkspaceVolumes.Text.Blank

/-!
# Valid configurations

A configuration is valid when the objects made from it have names and capacities that a
cluster accepts.

**Name stems** are lowercase labels: letters, digits and hyphens, with neither end a
hyphen, short enough that a generated name is still an object name.

**Quantities** are decimal numerals with an optional unit.

**Order.**  Of several faults the one of the field named first counts: strategy, stem,
quantity.  A blank stem is reported as missing, not as malformed.

## Main definitions

* `isLabel`, `isQuantity`: the two forms.
* `validateNameStem`, `validateQuantity`, `VolumesConfig.validate`.
-/

namespace WorkspaceVolumes

/-- Whether a character is a lowercase ASCII letter or a digit. -/
def isLowerAlphanum (c : Char) : Bool := c.isLower || c.isDigit

/-- Whether a text continues a label to its end; `closed` says whether the label could end
before it. -/
def continuesLabel (closed : Bool) : List Char → Bool
  | [] => closed
  | c :: rest =>
    if isLowerAlphanum c then continuesLabel true rest
    else c = '-' && continuesLabel false rest

/-- Whether a text is a lowercase label. -/
def isLabel : List Char → Bool
  | [] => false
  | c :: rest => isLowerAlphanum c && continuesLabel true rest

/-- The units of a quantity. -/
def quantityUnits : List String :=
  ["Ki", "Mi", "Gi", "Ti", "Pi", "Ei", "k", "M", "G", "T", "P", "E"]

/-- Whether a text is a unit or nothing. -/
def isUnit (text : List Char) : Bool := text.isEmpty || quantityUnits.any (·.toList = text)

/-- Whether a text is a quantity: digits, then perhaps a point and digits, then perhaps a
unit. -/
def isQuantity (text : List Char) : Bool :=
  text.head?.any Char.isDigit &&
    match text.dropWhile Char.isDigit with
    | '.' :: fraction =>
      fraction.head?.any Char.isDigit && isUnit (fraction.dropWhile Char.isDigit)
    | rest => isUnit rest

/-- Checks the stem of generated names. -/
def validateNameStem (stem : String) : Except VolumeError Unit :=
  if Text.isEmptyOrBlank stem then .error (.config .missingNameStem)
  else if !isLabel stem.toList then .error (.config (.malformedNameStem stem))
  else if maxNameStemLength < stem.utf8ByteSize then .error (.config (.longNameStem stem))
  else .ok ()

/-- Checks the capacity of new claims. -/
def validateQuantity (quantity : String) : Except VolumeError Unit :=
  if isQuantity quantity.toList then .ok () else .error (.config (.malformedQuantity quantity))

/-- Checks how claims are made. -/
def ClaimSettings.validate (settings : ClaimSettings) : Except VolumeError Unit := do
  validateNameStem settings.name
  validateQuantity settings.quantity

/-- Checks a configuration. -/
def VolumesConfig.validate (config : VolumesConfig) : Except VolumeError Unit := do
  if Text.isEmptyOrBlank config.strategy then throw (.config .missingStrategy)
  config.claim.validate

end WorkspaceVolumes
