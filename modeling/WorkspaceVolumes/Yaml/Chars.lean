/-!
# Characters of YAML

The character classes that the reader and the printer of YAML agree on.

**Breaks.**  Five characters end a line: line feed, carriage return, next line, line
separator and paragraph separator.  The last two are kept where they stand in a scalar;
the others read as a line feed.

**Text.**  A stream may hold the characters of `isAllowed`.  Fewer are printed as they
are: the printer escapes every character outside `isPrintable`.
-/

namespace WorkspaceVolumes.Yaml

/-- Whether a character ends a line. -/
def isBreak (c : Char) : Bool :=
  c = '\n' || c = '\r' || c = '\u0085' || c = '\u2028' || c = '\u2029'

/-- Whether a character is a space or a tab. -/
def isSpaceOrTab (c : Char) : Bool := c = ' ' || c = '\t'

/-- Whether what comes next is a space, a tab, a break or the end. -/
def startsBlankOrEnd : List Char → Bool
  | [] => true
  | c :: _ => isSpaceOrTab c || isBreak c

/-- The characters of anchors, tag handles and directive names. -/
def isWordChar (c : Char) : Bool := c.isAlphanum || c = '-' || c = '_'

/-- The brackets and the comma of flow collections. -/
def isFlowIndicator (c : Char) : Bool := c = ',' || c = '[' || c = ']' || c = '{' || c = '}'

/-- The characters that cannot open a plain scalar. -/
def isIndicator (c : Char) : Bool :=
  isFlowIndicator c || c = '-' || c = '?' || c = ':' || c = '#' || c = '&' || c = '*' || c = '!' ||
    c = '|' || c = '>' || c = '\'' || c = '"' || c = '%' || c = '@' || c = '\x60'

/-- The characters that a stream may hold. -/
def isAllowed (c : Char) : Bool :=
  let code := c.toNat
  code = 0x09 || code = 0x0A || code = 0x0D || (0x20 ≤ code && code ≤ 0x7E) || code = 0x85 ||
    (0xA0 ≤ code && code ≤ 0xD7FF) || (0xE000 ≤ code && code ≤ 0xFFFD) || 0x10000 ≤ code

/-- The characters that are printed as they are. -/
def isPrintable (c : Char) : Bool :=
  let code := c.toNat
  code = 0x0A || (0x20 ≤ code && code ≤ 0x7E) || (0xA0 ≤ code && code ≤ 0xD7FF) ||
    (0xE000 ≤ code && code ≤ 0xFFFD && code ≠ 0xFEFF) || 0x10000 ≤ code

/-- The mark that may open a stream. -/
def byteOrderMark : Char := '\uFEFF'

/-- A run of spaces. -/
def spaces (count : Nat) : List Char := List.replicate count ' '

/-- Whatever is printed as it is may stand in a stream. -/
theorem isAllowed_of_isPrintable {c : Char} (h : isPrintable c) : isAllowed c := by
  simp only [isPrintable, isAllowed, Bool.or_eq_true, Bool.and_eq_true, decide_eq_true_eq,
    ne_eq, decide_not, Bool.not_eq_true', decide_eq_false_iff_not] at h ⊢
  omega

end WorkspaceVolumes.Yaml
