/-!
# Digits

Numbers as runs of digits in some base, most significant first.  The letters of either
case are the digits from ten on.

## Main definitions

* `Text.digitValue`, `Text.ofDigits?`: from digits to numbers.
* `Text.fixedDigits`: from numbers to a fixed count of digits.
-/

namespace WorkspaceVolumes.Text

/-- The value of a digit.  What is not a digit of any base has a value that no digit
has. -/
def digitValue (c : Char) : Nat :=
  if c.isDigit then c.toNat - '0'.toNat
  else if 'a' ≤ c && c ≤ 'z' then c.toNat - 'a'.toNat + 10
  else if 'A' ≤ c && c ≤ 'Z' then c.toNat - 'A'.toNat + 10
  else 36

/-- The number that digits of a base stand for, if there are any and nothing else is among
them. -/
def ofDigits? (base : Nat) (digits : List Char) : Option Nat :=
  if digits.isEmpty then none
  else digits.foldlM (fun value c =>
    if digitValue c < base then some (base * value + digitValue c) else none) 0

/-- The hexadecimal digits with small letters. -/
def smallHex : List Char := "0123456789abcdef".toList

/-- The hexadecimal digits with capital letters. -/
def capitalHex : List Char := "0123456789ABCDEF".toList

/-- The last digits of a number, as many as asked for, in the base of an alphabet. -/
def fixedDigits (alphabet : List Char) : Nat → Nat → List Char
  | 0, _ => []
  | count + 1, number =>
    fixedDigits alphabet count (number / alphabet.length) ++
      [alphabet.getD (number % alphabet.length) '0']

end WorkspaceVolumes.Text
