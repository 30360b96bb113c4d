import WorkspaceVolumes.Proofs.Writing
import WorkspaceVolumes.Yaml.Printer
import WorkspaceVolumes.Yaml.Token

/-!
# Steps of the scanner

The scanner produces one token after the other.  Here it is said for each kind of token that
the printer writes which state the scanner comes to by reading it.

**Runs.**  One state advances to another by steps each of which takes a character at least
(`Advances`).  A run is given one step more than there are characters, so steps that are put
together this way never run out (`Advances.run_eq`).

**Indentation.**  A collection is opened by a token right of the innermost open one
(`opening`, `opened`), and closed by the first one left of its own column.  As long as that
does not come, the tokens belong to it (`Within`).

**Implicit keys.**  Only its colon shows that a scalar is a key.  Until then the scanner keeps
where it stands (`candidateAt`), and the tokens for a key and its mapping are put in before it
afterwards.  On a later line the place is given up (`Outlived`).

## Main definitions

* `TokenLog.append`: several tokens, added to those there are.
* `Scanner.Advances`: how one state comes to another.
* `Scanner.inBlock`: the states outside of flow collections.

## Main statements

* `Scanner.advances_scalarLine`: a string is read as its scalar, whatever its style.
* `Scanner.advances_key`: a key is read with the colon behind it.
* `Scanner.advances_blockEntry`, `Scanner.advances_explicitKey`,
  `Scanner.advances_explicitValue`, `Scanner.advances_emptyFlow`, `Scanner.advances_close`:
  the other tokens.
-/

namespace WorkspaceVolumes.Yaml

/-! ## Lines -/

namespace Position

theorem line_le_after (position : Position) (c : Char) :
    position.line ≤ (position.after c).line := by
  rw [after]
  split
  · exact Nat.le_succ _
  · exact Nat.le_refl _

theorem line_le_afterAll (position : Position) (text : List Char) :
    position.line ≤ (position.afterAll text).line := by
  induction text generalizing position with
  | nil => exact Nat.le_refl _
  | cons c text ih => exact Nat.le_trans (position.line_le_after c) (ih _)

/-- What holds a break ends on a later line. -/
theorem line_lt_afterAll (position : Position) {text : List Char} {c : Char} (member : c ∈ text)
    (ends : isBreak c) : position.line < (position.afterAll text).line := by
  obtain ⟨before, behind, rfl⟩ := List.append_of_mem member
  have here : ((position.afterAll before).after c).line = (position.afterAll before).line + 1 := by
    rw [after, if_pos ends]
  have first := position.line_le_afterAll before
  have last := ((position.afterAll before).after c).line_le_afterAll behind
  rw [afterAll_append, afterAll_cons]
  omega

theorem line_afterAll {text : List Char} (oneLine : ∀ c ∈ text, isBreak c = false)
    (position : Position) : (position.afterAll text).line = position.line := by
  induction text generalizing position with
  | nil => rfl
  | cons c text ih =>
    obtain ⟨here, later⟩ := List.forall_mem_cons.1 oneLine
    rw [afterAll_cons, ih later, after, here]
    rfl

/-- The index counts the bytes. -/
theorem index_afterAll (position : Position) (text : List Char) :
    (position.afterAll text).index = position.index + String.utf8Len text := by
  induction text generalizing position with
  | nil => rfl
  | cons c text ih =>
    have here : (position.after c).index = position.index + c.utf8Size := by
      rw [after]
      split <;> rfl
    rw [afterAll_cons, ih, here, String.utf8Len_cons]
    omega

end Position

/-! ## Produced tokens -/

namespace TokenLog

theorem eq_of_latest_eq {log other : TokenLog} (same : log.latest = other.latest) :
    log = other := by
  obtain ⟨latest, _, rfl⟩ := log
  obtain ⟨_, _, rfl⟩ := other
  cases same
  rfl

/-- Several further tokens. -/
def append (log : TokenLog) (tokens : List Token) : TokenLog := tokens.foldl push log

@[simp] theorem append_nil (log : TokenLog) : log.append [] = log := rfl

@[simp] theorem append_append (log : TokenLog) (tokens more : List Token) :
    (log.append tokens).append more = log.append (tokens ++ more) :=
  List.foldl_append.symm

@[simp] theorem latest_append (log : TokenLog) (tokens : List Token) :
    (log.append tokens).latest = tokens.reverse ++ log.latest := by
  induction tokens generalizing log with
  | nil => rfl
  | cons token tokens ih =>
    change ((log.push token).append tokens).latest = _
    rw [ih, List.reverse_cons, List.append_assoc]
    rfl

@[simp] theorem toList_append (log : TokenLog) (tokens : List Token) :
    (log.append tokens).toList = log.toList ++ tokens := by
  rw [toList, latest_append, List.reverse_append, List.reverse_reverse]
  rfl

theorem pushMany_succ (log : TokenLog) (count : Nat) (token : Token) :
    log.pushMany (count + 1) token = (log.append [token]).pushMany count token := by
  refine eq_of_latest_eq ?_
  change List.replicate (count + 1) token ++ log.latest =
    List.replicate count token ++ (token :: log.latest)
  rw [List.replicate_succ', List.append_assoc]
  rfl

/-- A token that is put in behind those there were comes before those that were added. -/
theorem insertAfter_append (log : TokenLog) (tokens : List Token) (token : Token) :
    (log.append tokens).insertAfter log.size token = log.append (token :: tokens) := by
  have insertIdx_append (first second : List Token) :
      (first ++ second).insertIdx first.length token = first ++ token :: second := by
    induction first with
    | nil => rfl
    | cons other first ih => exact congrArg (other :: ·) ih
  refine eq_of_latest_eq ?_
  have distance : (log.append tokens).size - log.size = tokens.reverse.length := by
    rw [(log.append tokens).size_eq, log.size_eq, latest_append, List.length_append,
      Nat.add_sub_cancel]
  change (log.append tokens).latest.insertIdx ((log.append tokens).size - log.size) token = _
  rw [distance, latest_append, insertIdx_append, latest_append, List.reverse_cons,
    List.append_assoc]
  rfl

end TokenLog

namespace Scanner

/-! ## Runs -/

theorem run_succ_of_ready {s found : Scanner} (ready : s.ready = .ok found) (steps : Nat) :
    run (steps + 1) s =
      match found.rest with
      | [] => found.finish
      | c :: rest => found.fetch c rest >>= run steps := by
  rw [run, ready]
  rfl

/-- That one state comes to another by reading tokens, each of which takes a character. -/
def Advances (s later : Scanner) : Prop :=
  ∃ steps, steps + later.rest.length ≤ s.rest.length ∧
    ∀ more, run (more + steps) s = run more later

namespace Advances

variable {s later last : Scanner}

theorem trans (first : Advances s later) (second : Advances later last) : Advances s last := by
  obtain ⟨steps, fewer, comes⟩ := first
  obtain ⟨moreSteps, evenFewer, goesOn⟩ := second
  refine ⟨moreSteps + steps, by omega, fun more => ?_⟩
  rw [← Nat.add_assoc, comes, goesOn]

/-- States that are the same at the next token need no step between them. -/
theorem of_ready (same : s.ready = later.ready) (fewer : later.rest.length ≤ s.rest.length) :
    Advances s later := by
  refine ⟨0, by omega, fun more => ?_⟩
  cases more with
  | zero => rfl
  | succ more => rw [Nat.add_zero, run, run, same]

/-- The reading of one token is a step. -/
theorem of_fetch {found : Scanner} {c : Char} {rest : List Char} (ready : s.ready = .ok found)
    (starts : found.rest = c :: rest) (reads : found.fetch c rest = .ok later)
    (fewer : later.rest.length < s.rest.length) : Advances s later := by
  refine ⟨1, by omega, fun more => ?_⟩
  rw [run_succ_of_ready ready, starts]
  dsimp only
  rw [reads]
  rfl

/-- A run that comes to the end of the text produces the tokens that are there. -/
theorem run_eq {found : Scanner} (advances : Advances s later) (ready : later.ready = .ok found)
    (ends : found.rest = []) : run (s.rest.length + 1) s = found.finish := by
  obtain ⟨steps, fewer, comes⟩ := advances
  obtain ⟨more, enough⟩ : ∃ more, s.rest.length + 1 = more + 1 + steps :=
    ⟨s.rest.length - steps, by omega⟩
  rw [enough, comes, run_succ_of_ready ready, ends]

end Advances

/-! ## Before a token -/

section

variable {keyAllowed : Bool} {position : Position} {rest content : List Char}

theorem skipBlanks_spaces (count : Nat) :
    skipBlanks false keyAllowed false position (spaces count ++ rest) =
      skipBlanks false keyAllowed false (position.afterAll (spaces count)) rest := by
  induction count generalizing position with
  | zero => rfl
  | succ count ih =>
    rw [spaces_succ, List.cons_append, skipBlanks, if_neg (by decide), if_pos (by simp)]
    exact ih

theorem skipBlanks_break {c : Char} (ends : isBreak c) :
    skipBlanks false keyAllowed false position (c :: rest) =
      skipBlanks false true false (position.after c) rest := by
  rw [skipBlanks, if_pos ends]
  rfl

theorem skipBlanks_content (inFlow : Bool) (begins : startsContent content) :
    skipBlanks inFlow keyAllowed false position content = (keyAllowed, ⟨position, content⟩) := by
  cases content with
  | nil => rfl
  | cons c rest =>
    obtain ⟨noBlank, noBreak, noComment, noMark⟩ := of_startsContent begins
    have visible : c ≠ ' ' ∧ c ≠ '\t' := by simpa [isSpaceOrTab] using noBlank
    rw [skipBlanks, noBreak]
    simp [visible, noComment, noMark]

end

/-- A state outside of flow collections, with what may be an implicit key. -/
def inBlock (keyAllowed : Bool) (position : Position) (rest : List Char) (log : TokenLog)
    (indents : List Nat) (candidate : Option KeyCandidate) : Scanner where
  cursor := ⟨position, rest⟩
  produced := log
  indents
  keyAllowed
  candidate
  enclosing := []

section

variable {keyAllowed : Bool} {position : Position} {rest : List Char} {log : TokenLog}
  {indents : List Nat} {candidate : Option KeyCandidate}

@[simp] theorem column_inBlock :
    (inBlock keyAllowed position rest log indents candidate).column = position.column := rfl

@[simp] theorem cursor_inBlock :
    (inBlock keyAllowed position rest log indents candidate).cursor = ⟨position, rest⟩ := rfl

@[simp] theorem rest_inBlock :
    (inBlock keyAllowed position rest log indents candidate).rest = rest := rfl

@[simp] theorem indents_inBlock :
    (inBlock keyAllowed position rest log indents candidate).indents = indents := rfl

@[simp] theorem inFlow_inBlock :
    (inBlock keyAllowed position rest log indents candidate).inFlow = false := rfl

end

/-- Whether a column is right of the innermost of some indentations. -/
def nests (column : Nat) : List Nat → Bool
  | [] => true
  | indent :: _ => indent < column

/-- The indentations of the open collections when one may start at a column. -/
def opened (column : Nat) (indents : List Nat) : List Nat :=
  if nests column indents then column :: indents else indents

/-- The token of a collection that may start at a column. -/
def opening (token : Token) (column : Nat) (indents : List Nat) : List Token :=
  if nests column indents then [token] else []

/-- That no block collection ends at a column. -/
def Within (column : Nat) (indents : List Nat) : Prop := ∀ indent ∈ indents.head?, indent ≤ column

section

variable {keyAllowed : Bool} {position later : Position} {rest content : List Char}
  {log : TokenLog} {indents : List Nat} {candidate : Option KeyCandidate}

/-- Where no collection ends at a column, the innermost one stands there once it is opened. -/
theorem exists_opened_eq {column : Nat} (within : Within column indents) :
    ∃ outer, opened column indents = column :: outer := by
  cases indents with
  | nil => exact ⟨[], rfl⟩
  | cons indent outer =>
    by_cases nested : indent < column
    · exact ⟨indent :: outer, by rw [opened, nests, decide_eq_true nested, if_pos rfl]⟩
    · obtain rfl : indent = column := Nat.le_antisymm (within indent rfl) (Nat.not_lt.1 nested)
      exact ⟨outer, by rw [opened, nests, decide_eq_false nested]; rfl⟩

theorem within_cons_iff {column indent : Nat} {outer : List Nat} :
    Within column (indent :: outer) ↔ indent ≤ column := by
  simp [Within]

theorem nests_cons_self (indent : Nat) (outer : List Nat) :
    nests indent (indent :: outer) = false :=
  decide_eq_false (Nat.lt_irrefl _)

theorem opening_cons_self (token : Token) (indent : Nat) (outer : List Nat) :
    opening token indent (indent :: outer) = [] := by
  rw [opening, nests_cons_self]
  rfl

theorem opened_cons_self (indent : Nat) (outer : List Nat) :
    opened indent (indent :: outer) = indent :: outer := by
  rw [opened, nests_cons_self]
  rfl

theorem closedBy_of_within {column : Nat} (within : Within column indents) :
    closedBy column indents = (0, indents) := by
  cases indents with
  | nil => rfl
  | cons indent outer => rw [closedBy, if_neg (Nat.not_lt.2 (within indent rfl))]

theorem closeBlocks_of_within (within : Within position.column indents) :
    (inBlock keyAllowed position rest log indents candidate).closeBlocks =
      inBlock keyAllowed position rest log indents candidate := by
  have closes : closedBy (inBlock keyAllowed position rest log indents candidate).column
      (inBlock keyAllowed position rest log indents candidate).indents = (0, indents) :=
    closedBy_of_within within
  have none : log.pushMany 0 .blockEnd = log := TokenLog.eq_of_latest_eq rfl
  rw [closeBlocks, if_neg (by rintro ⟨⟩), closes]
  dsimp only [inBlock]
  rw [none]

/-- A candidate that is out of reach is given up. -/
theorem ready_inBlock {allowed : Bool}
    (skips : skipBlanks false keyAllowed false position rest = (allowed, ⟨later, content⟩))
    {candidate left : Option KeyCandidate} (refreshes : refreshed later candidate = .ok left) :
    (inBlock keyAllowed position rest log indents candidate).ready =
      .ok (inBlock allowed later content log indents left).closeBlocks := by
  have next : (inBlock keyAllowed position rest log indents candidate).toNextToken =
      inBlock allowed later content log indents candidate := by
    have skipsHere : skipBlanks (inBlock keyAllowed position rest log indents candidate).inFlow
        (inBlock keyAllowed position rest log indents candidate).keyAllowed false
        (inBlock keyAllowed position rest log indents candidate).cursor.position
        (inBlock keyAllowed position rest log indents candidate).rest = _ := skips
    rw [toNextToken, skipsHere]
    rfl
  have refreshesHere : refreshed
      (inBlock allowed later content log indents candidate).cursor.position
      (inBlock allowed later content log indents candidate).candidate = .ok left := refreshes
  rw [ready, next, refreshCandidates, refreshesHere]
  rfl

theorem refreshed_none (position : Position) : refreshed position none = .ok none := rfl

/-- A candidate that an earlier line has left behind, if there is one. -/
def Outlived (position : Position) (candidate : Option KeyCandidate) : Prop :=
  ∀ old ∈ candidate, old.required = false ∧ old.position.line < position.line

theorem outlived_none : Outlived position none := nofun

theorem Outlived.refreshed (outlived : Outlived position candidate) :
    refreshed position candidate = .ok none := by
  cases candidate with
  | none => rfl
  | some old =>
    obtain ⟨notRequired, before⟩ := outlived old rfl
    have stale : isStale position old = true := by
      rw [isStale, decide_eq_true before, Bool.true_or]
    rw [Scanner.refreshed, if_pos stale, notRequired]
    rfl

/-- What is blank before the next token needs no step. -/
theorem advances_of_skip {allowed : Bool} (begins : startsContent content)
    (skips : skipBlanks false keyAllowed false position rest = (allowed, ⟨later, content⟩))
    (outlived : Outlived later candidate) (fewer : content.length ≤ rest.length) :
    Advances (inBlock keyAllowed position rest log indents candidate)
      (inBlock allowed later content log indents none) := by
  refine .of_ready ?_ fewer
  rw [ready_inBlock skips outlived.refreshed,
    ready_inBlock (skipBlanks_content false begins) (refreshed_none later)]

theorem advances_of_fetch {c : Char} {found : Scanner} (begins : startsContent (c :: rest))
    (within : Within position.column indents)
    (refreshes : refreshed position candidate = .ok candidate)
    (reads :
      (inBlock keyAllowed position (c :: rest) log indents candidate).fetch c rest = .ok found)
    (fewer : found.rest.length ≤ rest.length) :
    Advances (inBlock keyAllowed position (c :: rest) log indents candidate) found := by
  refine .of_fetch ?_ rfl reads (Nat.lt_succ_of_le fewer)
  rw [ready_inBlock (skipBlanks_content false begins) refreshes, closeBlocks_of_within within]

/-- The candidate that a node leaves. -/
def candidateAt (keyAllowed : Bool) (position : Position) (log : TokenLog) (indents : List Nat) :
    Option KeyCandidate :=
  if keyAllowed then some ⟨log.size, position, indents.head? = some position.column⟩ else none

theorem saveCandidate_inBlock :
    (inBlock keyAllowed position rest log indents none).saveCandidate =
      .ok (inBlock keyAllowed position rest log indents
        (candidateAt keyAllowed position log indents)) := by
  cases keyAllowed <;> rfl

/-! ## Scalars -/

/-- What stands plain starts a plain scalar. -/
theorem fetch_plain {text : List Char} (stands : StandsPlain text) {c : Char} {more : List Char}
    (starts : text ++ rest = c :: more)
    (noMarker : position.column = 0 → startsMarker (text ++ rest) = false) :
    (inBlock keyAllowed position (c :: more) log indents candidate).fetch c more =
      (inBlock keyAllowed position (c :: more) log indents candidate).plain := by
  obtain ⟨d, text, rfl⟩ := List.exists_cons_of_ne_nil stands.nonempty
  obtain ⟨rfl, rfl⟩ := List.cons.inj starts
  have inText {α : Prop} (lineStart : decide (position.column = 0))
      (marks : startsMarker (d :: (text ++ rest))) : α :=
    absurd marks (Bool.eq_false_iff.1 (noMarker (of_decide_eq_true lineStart)))
  obtain ⟨⟨noBlank, -, -⟩, noIndicator | ⟨isOne, notAlone⟩⟩ := of_standsPlain_cons stands
  · have others := noIndicator
    simp only [isIndicator, isFlowIndicator, Bool.or_eq_false_iff, decide_eq_false_iff_not]
      at others
    simp [fetch, others, noIndicator, noBlank]
    exact inText
  · have visible : startsBlankOrEnd (text ++ rest) = false := by
      cases text with
      | nil => cases notAlone
      | cons => exact notAlone
    rcases isOne with rfl | rfl | rfl <;> simp [fetch, visible] <;> exact inText

theorem plain_inBlock {lexeme : PlainLexeme}
    (reads : plainScalar false ((indents.head?.map (· + 1)).getD 0) ⟨position, rest⟩ = .ok lexeme) :
    (inBlock keyAllowed position rest log indents none).plain =
      .ok (inBlock lexeme.endsLine lexeme.cursor.position lexeme.cursor.rest
        (log.append [.scalar .plain lexeme.text]) indents
        (candidateAt keyAllowed position log indents)) := by
  rw [plain, saveCandidate_inBlock]
  simp only [bind, Except.bind, cursor_inBlock, indents_inBlock, inFlow_inBlock, reads]
  rfl

theorem quotedScalar_inBlock {style : ScalarStyle} {text : List Char} {cursor : Cursor}
    (reads : (if style = .singleQuoted then singleQuotedScalar ⟨position, rest⟩
      else doubleQuotedScalar ⟨position, rest⟩) = .ok (text, cursor)) :
    (inBlock keyAllowed position rest log indents none).quotedScalar style =
      .ok (inBlock false cursor.position cursor.rest (log.append [.scalar style text]) indents
        (candidateAt keyAllowed position log indents)) := by
  rw [quotedScalar, saveCandidate_inBlock]
  simp only [bind, Except.bind, cursor_inBlock]
  split at reads
  case isTrue isSingle =>
    rw [if_pos isSingle, reads]
    rfl
  case isFalse isDouble =>
    rw [if_neg isDouble, reads]
    rfl

theorem block_inBlock {text : List Char} {cursor : Cursor}
    (reads : blockScalar true indents.head? ⟨position, rest⟩ = .ok (text, cursor)) :
    (inBlock keyAllowed position rest log indents none).block .literal =
      .ok (inBlock true cursor.position cursor.rest (log.append [.scalar .literal text]) indents
        none) := by
  have drops : (inBlock keyAllowed position rest log indents none).dropCandidate =
      .ok (inBlock keyAllowed position rest log indents none) := rfl
  rw [block, drops]
  simp only [bind, Except.bind, cursor_inBlock, indents_inBlock, decide_true, reads]
  rfl

theorem fetch_literal :
    (inBlock keyAllowed position ('|' :: rest) log indents candidate).fetch '|' rest =
      (inBlock keyAllowed position ('|' :: rest) log indents candidate).block .literal := by
  simp [fetch, startsMarker]

theorem advances_singleQuoted {indent : Nat} (wide : 0 < indent) {text : List Char}
    (stands : StandsSingleQuoted text) (ends : rest.head? ≠ some '\'')
    (within : Within position.column indents) :
    Advances (inBlock keyAllowed position (singleQuoted indent text ++ rest) log indents none)
      (inBlock false (position.afterAll (singleQuoted indent text)) rest
        (log.append [.scalar .singleQuoted text]) indents
        (candidateAt keyAllowed position log indents)) := by
  have reads := singleQuotedScalar_append wide stands ends position
  refine advances_of_fetch rfl within rfl ?_ (by simp; omega)
  refine .trans ?_ (quotedScalar_inBlock ((if_pos rfl).trans reads))
  simp [fetch, startsMarker, singleQuoted]

theorem advances_doubleQuoted (text : List Char) (within : Within position.column indents) :
    Advances (inBlock keyAllowed position (doubleQuoted text ++ rest) log indents none)
      (inBlock false (position.afterAll (doubleQuoted text)) rest
        (log.append [.scalar .doubleQuoted text]) indents
        (candidateAt keyAllowed position log indents)) := by
  have reads := doubleQuotedScalar_append text rest position
  refine advances_of_fetch rfl within rfl ?_ (by simp; omega)
  refine .trans ?_ (quotedScalar_inBlock ((if_neg nofun).trans reads))
  simp [fetch, startsMarker, doubleQuoted]

theorem advances_plain {text : List Char} (stands : StandsPlain text)
    (within : Within position.column indents)
    (noMarker : position.column = 0 → startsMarker (text ++ rest) = false) {lexeme : PlainLexeme}
    (reads : plainRest false ((indents.head?.map (· + 1)).getD 0) .none text.reverse
      (position.afterAll text) rest = .ok lexeme)
    (fewer : lexeme.cursor.rest.length ≤ rest.length) :
    Advances (inBlock keyAllowed position (text ++ rest) log indents none)
      (inBlock lexeme.endsLine lexeme.cursor.position lexeme.cursor.rest
        (log.append [.scalar .plain lexeme.text]) indents
        (candidateAt keyAllowed position log indents)) := by
  have indented : (indents.head?.map (· + 1)).getD 0 ≤ position.column + 1 := by
    cases indents with
    | nil => exact Nat.zero_le _
    | cons indent outer => exact Nat.succ_le_succ (within indent rfl)
  have begins := startsContent_of_standsPlain stands rest
  rw [← plainScalar_append stands indented] at reads
  have nonempty : 0 < text.length := List.length_pos_of_ne_nil stands.nonempty
  obtain ⟨c, more, starts⟩ : ∃ c more, text ++ rest = c :: more :=
    List.exists_cons_of_ne_nil (by simp [stands.nonempty])
  have shorter : rest.length ≤ more.length := by
    have lengths := congrArg List.length starts
    rw [List.length_append, List.length_cons] at lengths
    omega
  have starting := @fetch_plain keyAllowed position rest log indents none text stands c more starts
    noMarker
  rw [starts] at begins reads ⊢
  exact advances_of_fetch begins within rfl (starting.trans (plain_inBlock reads))
    (Nat.le_trans fewer shorter)

/-- What a scalar leaves is given up on a later line, if it stood right of what encloses it. -/
theorem outlived_candidateAt {indent : Nat} {outer : List Nat} (inside : indent < position.column)
    (below : position.line < later.line) :
    Outlived later (candidateAt keyAllowed position log (indent :: outer)) := by
  intro old isLeft
  rw [candidateAt] at isLeft
  split at isLeft
  · obtain rfl := Option.mem_some.1 isLeft
    exact ⟨decide_eq_false fun same => Nat.ne_of_lt inside (Option.some.inj same), below⟩
  · cases isLeft

/-- A new line is passed before the next token. -/
theorem advances_lineEnd {count : Nat} (begins : startsContent content)
    (outlived : Outlived ((position.after '\n').afterAll (spaces count)) candidate) :
    Advances (inBlock keyAllowed position ('\n' :: (spaces count ++ content)) log indents candidate)
      (inBlock true (position.afterAll ('\n' :: spaces count)) content log indents none) := by
  refine advances_of_skip begins ?_ outlived (by simp; omega)
  rw [skipBlanks_break rfl, skipBlanks_spaces, skipBlanks_content false begins]
  rfl

/-- What a scalar leaves is given up behind its line. -/
theorem outlived_lineEnd {indent count : Nat} {outer : List Nat} (inside : indent < position.column)
    (written : List Char) :
    Outlived (((position.afterAll written).after '\n').afterAll (spaces count))
      (candidateAt keyAllowed position log (indent :: outer)) := by
  have member : '\n' ∈ written ++ '\n' :: spaces count :=
    List.mem_append_right written List.mem_cons_self
  have below := position.line_lt_afterAll member rfl
  rw [Position.afterAll_append] at below
  exact outlived_candidateAt inside below

section

variable {indent count : Nat} {outer : List Nat} (inside : indent < position.column)
  (outside : count ≤ indent) (begins : startsContent content)

include inside outside begins

/-- A plain scalar is read to the next line, if that is indented no further than what encloses
the scalar. -/
theorem advances_plainLine {text : List Char} (stands : StandsPlain text) :
    Advances
      (inBlock keyAllowed position (text ++ '\n' :: (spaces count ++ content)) log (indent :: outer)
        none)
      (inBlock true (position.afterAll (text ++ '\n' :: spaces count)) content
        (log.append [.scalar .plain text]) (indent :: outer) none) := by
  have within : Within position.column (indent :: outer) := within_cons_iff.2 (Nat.le_of_lt inside)
  have lineStart : ((position.afterAll text).after '\n').column + count < indent + 1 := by
    rw [column_after_of_isBreak _ rfl]
    omega
  have reads : plainRest false (indent + 1) .none text.reverse (position.afterAll text)
      ('\n' :: (spaces count ++ content)) = .ok ⟨text,
        ⟨((position.afterAll text).after '\n').afterAll (spaces count), content⟩, true⟩ := by
    rw [plainRest_lineFeed]
    refine (plainRest_lines begins lineStart).trans ?_
    rw [List.reverse_reverse]
  rw [Position.afterAll_append]
  exact (advances_plain stands within (fun atStart => absurd inside (by omega)) reads
      (by simp; omega)).trans
    (advances_of_skip begins (skipBlanks_content false begins) (outlived_lineEnd inside text)
      (Nat.le_refl _))

/-- A string is read to the next line, whatever its style. -/
theorem advances_scalarLine (text : List Char) :
    Advances
      (inBlock keyAllowed position
        (scalarLine (indent + indentStep) text ++ (spaces count ++ content)) log (indent :: outer)
        none)
      (inBlock true
        (position.afterAll (scalarLine (indent + indentStep) text ++ spaces count)) content
        (log.append [.scalar (.ofText false text) text]) (indent :: outer) none) := by
  have within : Within position.column (indent :: outer) := within_cons_iff.2 (Nat.le_of_lt inside)
  rw [scalarLine_eq, scalarText]
  cases style : ScalarStyle.ofText false text with
  | plain =>
    simp only [reduceCtorEq, if_false, List.append_assoc, List.singleton_append]
    exact advances_plainLine inside outside begins (ScalarStyle.standsPlain style).1
  | singleQuoted =>
    simp only [reduceCtorEq, if_false, List.append_assoc, List.singleton_append,
      Position.afterAll_append]
    exact (advances_singleQuoted (Nat.add_pos_right indent (by decide))
        (ScalarStyle.standsSingleQuoted style) (by simp) within).trans
      (advances_lineEnd begins (outlived_lineEnd inside (singleQuoted (indent + indentStep) text)))
  | doubleQuoted =>
    simp only [reduceCtorEq, if_false, List.append_assoc, List.singleton_append,
      Position.afterAll_append]
    exact (advances_doubleQuoted text within).trans
      (advances_lineEnd begins (outlived_lineEnd inside (doubleQuoted text)))
  | literal =>
    obtain ⟨nonempty, printable⟩ := ScalarStyle.standsLiteral style
    have reads : blockScalar true (indent :: outer).head? _ = _ :=
      blockScalar_append nonempty printable begins outside position
    simp only [if_true, List.append_assoc]
    rw [literalBlock_append] at reads ⊢
    exact advances_of_fetch rfl within rfl (fetch_literal.trans (block_inBlock reads))
      (by simp; omega)
  | folded => exact absurd style (ScalarStyle.ofText_ne_folded _ _)

end

/-! ## Indicators -/

theorem openBlock_inBlock (token : Token) :
    (inBlock keyAllowed position rest log indents candidate).openBlock token =
      inBlock keyAllowed position rest (log.append (opening token position.column indents))
        (opened position.column indents) candidate := by
  have nested : (inBlock keyAllowed position rest log indents candidate).opensBlockAt
      position.column = nests position.column indents := by
    cases indents <;> rfl
  rw [openBlock, column_inBlock, nested, opening, opened]
  cases nests position.column indents <;> rfl

/-- What a blank or an end follows is no document marker. -/
theorem startsMarker_cons {c : Char} (blank : startsBlankOrEnd rest) :
    startsMarker (c :: rest) = false := by
  unfold startsMarker
  split
  case h_1 same =>
    obtain ⟨-, rfl⟩ := List.cons.inj same
    cases blank
  case h_2 same =>
    obtain ⟨-, rfl⟩ := List.cons.inj same
    cases blank
  case h_3 => rfl

theorem advances_blockEntry (blank : startsBlankOrEnd rest)
    (within : Within position.column indents) :
    Advances (inBlock true position ('-' :: rest) log indents none)
      (inBlock true (position.after '-') rest
        (log.append (opening .blockSequenceStart position.column indents ++ [.blockEntry]))
        (opened position.column indents) none) := by
  refine advances_of_fetch rfl within rfl ?_ (by simp)
  have fetches : (inBlock true position ('-' :: rest) log indents none).fetch '-' rest =
      (inBlock true position ('-' :: rest) log indents none).blockEntry := by
    simp [fetch, startsMarker_cons blank, blank]
  rw [fetches, blockEntry, openBlock_inBlock, ← TokenLog.append_append]
  rfl

theorem advances_explicitKey (blank : startsBlankOrEnd rest)
    (within : Within position.column indents) :
    Advances (inBlock true position ('?' :: rest) log indents none)
      (inBlock true (position.after '?') rest
        (log.append (opening .blockMappingStart position.column indents ++ [.key]))
        (opened position.column indents) none) := by
  refine advances_of_fetch rfl within rfl ?_ (by simp)
  have fetches : (inBlock true position ('?' :: rest) log indents none).fetch '?' rest =
      (inBlock true position ('?' :: rest) log indents none).explicitKey := by
    simp [fetch, startsMarker_cons blank, blank]
  rw [fetches, explicitKey, openBlock_inBlock, ← TokenLog.append_append]
  rfl

/-- The colon behind an announced key stands where the mapping does. -/
theorem advances_explicitValue {indent : Nat} {outer : List Nat} (stands : position.column = indent)
    (blank : startsBlankOrEnd rest) :
    Advances (inBlock true position (':' :: rest) log (indent :: outer) none)
      (inBlock true (position.after ':') rest (log.append [.value]) (indent :: outer) none) := by
  subst stands
  refine advances_of_fetch rfl (within_cons_iff.2 (Nat.le_refl _)) rfl ?_ (by simp)
  have fetches : (inBlock true position (':' :: rest) log (position.column :: outer) none).fetch ':'
      rest = (inBlock true position (':' :: rest) log (position.column :: outer) none).colon := by
    simp [fetch, startsMarker_cons blank, blank]
  rw [fetches, colon]
  change (do
    let s := (inBlock true position (':' :: rest) log (position.column :: outer) none).openBlock
      .blockMappingStart
    Except.ok { s.emit .value 1 with keyAllowed := !s.inFlow }) = _
  rw [openBlock_inBlock, opening_cons_self, opened_cons_self]
  rfl

/-! ## Implicit keys -/

/-- A candidate within reach is kept. -/
theorem refreshed_candidateAt (sameLine : later.line = position.line)
    (near : later.index ≤ position.index + maxKeyDistance) :
    refreshed later (candidateAt keyAllowed position log indents) =
      .ok (candidateAt keyAllowed position log indents) := by
  cases keyAllowed with
  | false => rfl
  | true =>
    have fresh :
        isStale later ⟨log.size, position, indents.head? = some position.column⟩ = false := by
      rw [isStale, decide_eq_false (sameLine ▸ Nat.lt_irrefl _),
        decide_eq_false (Nat.not_lt.2 near)]
      rfl
    rw [candidateAt, if_pos rfl, refreshed, if_neg (Bool.eq_false_iff.1 fresh)]

theorem insertAfter_inBlock (tokens : List Token) (token : Token) :
    (inBlock keyAllowed position rest (log.append tokens) indents candidate).insertAfter log.size
        token =
      inBlock keyAllowed position rest (log.append (token :: tokens)) indents candidate := by
  rw [insertAfter, inBlock]
  dsimp only
  rw [TokenLog.insertAfter_append]
  rfl

/-- A colon makes a key of the candidate before it, which may open a mapping. -/
theorem advances_colon (scalar : Token) (blank : startsBlankOrEnd rest) {start : Position}
    (sameLine : position.line = start.line) (near : position.index ≤ start.index + maxKeyDistance)
    (within : Within position.column indents) :
    Advances
      (inBlock false position (':' :: rest) (log.append [scalar]) indents
        (candidateAt true start log indents))
      (inBlock false (position.after ':') rest
        (log.append (opening .blockMappingStart start.column indents ++ [.key, scalar, .value]))
        (opened start.column indents) none) := by
  refine advances_of_fetch rfl within (refreshed_candidateAt sameLine near) ?_ (by simp)
  have fetches : (inBlock false position (':' :: rest) (log.append [scalar]) indents
        (candidateAt true start log indents)).fetch ':' rest =
      (inBlock false position (':' :: rest) (log.append [scalar]) indents
        (candidateAt true start log indents)).colon := by
    simp [fetch, startsMarker_cons blank, blank]
  have nested : (inBlock false position (':' :: rest) (log.append [scalar]) indents
        (candidateAt true start log indents)).opensBlockAt start.column =
      nests start.column indents := by
    cases indents <;> rfl
  have isKey : (inBlock false position (':' :: rest) (log.append [scalar]) indents
      (candidateAt true start log indents)).candidate =
        some ⟨log.size, start, indents.head? = some start.column⟩ := rfl
  rw [fetches, colon, opening, opened, isKey]
  dsimp only
  rw [nested, insertAfter_inBlock, insertAfter_inBlock]
  cases nests start.column indents <;> rfl

/-- A key of one line is read as its scalar, and where it stands is kept. -/
theorem advances_keyScalar {text : List Char} (oneLine : ∀ c ∈ text, isBreak c = false)
    (blank : startsBlankOrEnd rest) (within : Within position.column indents) :
    Advances (inBlock true position (scalarText true 0 text ++ ':' :: rest) log indents none)
      (inBlock false (position.afterAll (scalarText true 0 text)) (':' :: rest)
        (log.append [.scalar (.ofText false text) text]) indents
        (candidateAt true position log indents)) := by
  rw [scalarText, ← ScalarStyle.ofText_true oneLine]
  cases style : ScalarStyle.ofText true text with
  | plain =>
    have stands := (ScalarStyle.standsPlain style).1
    have reads : plainRest false ((indents.head?.map (· + 1)).getD 0) .none text.reverse
        (position.afterAll text) (':' :: rest) =
          .ok ⟨text, ⟨position.afterAll text, ':' :: rest⟩, false⟩ := by
      rw [plainRest_colon blank, List.reverse_reverse]
    exact advances_plain stands within (fun _ => startsMarker_colon stands.noMarker rest) reads
      (Nat.le_refl _)
  | singleQuoted =>
    have sameWriting : singleQuoted 0 text = singleQuoted 1 text := by
      rw [singleQuoted_of_oneLine 0 oneLine, singleQuoted_of_oneLine 1 oneLine]
    dsimp only
    rw [sameWriting]
    exact advances_singleQuoted Nat.one_pos (ScalarStyle.standsSingleQuoted style) (by simp) within
  | doubleQuoted => exact advances_doubleQuoted text within
  | literal => exact absurd style (ScalarStyle.ofText_ne_literal oneLine)
  | folded => exact absurd style (ScalarStyle.ofText_ne_folded _ _)

/-- A key of one line that is not too long is read with the colon behind it. -/
theorem advances_key {text : List Char} (oneLine : ∀ c ∈ text, isBreak c = false)
    (short : String.utf8Len text ≤ maxKeyLength) (blank : startsBlankOrEnd rest)
    (within : Within position.column indents) :
    Advances (inBlock true position (scalarText true 0 text ++ ':' :: rest) log indents none)
      (inBlock false (position.afterAll (scalarText true 0 text ++ [':'])) rest
        (log.append (opening .blockMappingStart position.column indents ++
          [.key, .scalar (.ofText false text) text, .value]))
        (opened position.column indents) none) := by
  have written : ∀ c ∈ scalarText true 0 text, isBreak c = false := fun c =>
    isBreak_of_mem_scalarText oneLine
  have sameLine := Position.line_afterAll written position
  have near : (position.afterAll (scalarText true 0 text)).index ≤
      position.index + maxKeyDistance := by
    have longer : String.utf8Len (scalarText true 0 text) ≤ 4 * String.utf8Len text + 2 :=
      utf8Len_scalarText_le oneLine
    rw [Position.index_afterAll]
    unfold maxKeyLength at short
    unfold maxKeyDistance
    omega
  have behind : Within (position.afterAll (scalarText true 0 text)).column indents := by
    intro indent isInnermost
    rw [Position.column_afterAll written]
    exact Nat.le_trans (within indent isInnermost) (Nat.le_add_right _ _)
  rw [Position.afterAll_append]
  exact (advances_keyScalar oneLine blank within).trans
    (advances_colon _ blank sameLine near behind)

/-! ## Empty collections -/

/-- The two characters of an empty collection in flow style are read. -/
theorem advances_emptyFlow {c d : Char} {first last : Token}
    (begins : startsContent (c :: d :: rest))
    (goesOn : startsContent (d :: rest)) (short : c.utf8Size ≤ maxKeyDistance)
    (opens : ∀ (s : Scanner) (rest : List Char), s.fetch c rest = s.openFlow first)
    (closes : ∀ (s : Scanner) (rest : List Char), s.fetch d rest = s.closeFlow last)
    (within : Within position.column indents) :
    Advances (inBlock keyAllowed position (c :: d :: rest) log indents none)
      (inBlock false (position.afterAll [c, d]) rest (log.append [first, last]) indents
        (candidateAt keyAllowed position log indents)) := by
  have noBreak : isBreak c = false := (of_startsContent begins).2.1
  let inside : Scanner := { inBlock true (position.after c) (d :: rest) (log.append [first]) indents
    none with enclosing := [candidateAt keyAllowed position log indents] }
  have entered :
      (inBlock keyAllowed position (c :: d :: rest) log indents none).fetch c (d :: rest) =
        .ok inside := by
    rw [opens, openFlow, saveCandidate_inBlock]
    rfl
  have kept : refreshed (position.after c) (candidateAt keyAllowed position log indents) =
      .ok (candidateAt keyAllowed position log indents) := by
    refine refreshed_candidateAt (Position.line_afterAll (List.forall_mem_singleton.2 noBreak) _) ?_
    have index := position.index_afterAll [c]
    rw [String.utf8Len_cons, String.utf8Len_nil, Nat.zero_add] at index
    exact Nat.le_trans (Nat.le_of_eq index) (Nat.add_le_add_left short _)
  have next : inside.toNextToken = inside := by
    have skips :
        skipBlanks inside.inFlow inside.keyAllowed false inside.cursor.position inside.rest =
          (inside.keyAllowed, inside.cursor) := skipBlanks_content true goesOn
    rw [toNextToken, skips]
  have refreshes : inside.refreshCandidates = .ok inside := by
    have outer :
        inside.enclosing.mapM (refreshed inside.cursor.position) = .ok inside.enclosing := by
      change [candidateAt keyAllowed position log indents].mapM (refreshed (position.after c)) = _
      rw [List.mapM_cons, kept]
      rfl
    rw [refreshCandidates, outer]
    rfl
  have ready : inside.ready = .ok inside := by
    rw [Scanner.ready, next, refreshes]
    rfl
  have left : inside.fetch d rest = .ok (inBlock false (position.afterAll [c, d]) rest
      (log.append [first, last]) indents (candidateAt keyAllowed position log indents)) := by
    rw [closes]
    rfl
  exact (advances_of_fetch begins within rfl entered (Nat.le_refl _)).trans
    (.of_fetch ready rfl left (Nat.lt_succ_self _))

/-! ## Ends of collections -/

/-- A collection that is indented more than the next line is closed there. -/
theorem advances_close {indent : Nat} (begins : startsContent content)
    (outside : position.column < indent) :
    Advances (inBlock keyAllowed position content log (indent :: indents) none)
      (inBlock keyAllowed position content (log.append [.blockEnd]) indents none) := by
  have closes : closedBy position.column (indent :: indents) =
      ((closedBy position.column indents).1 + 1, (closedBy position.column indents).2) := by
    rw [closedBy, if_pos outside]
  have skips := @skipBlanks_content keyAllowed position content false begins
  refine .of_ready ?_ (Nat.le_refl _)
  rw [ready_inBlock skips (refreshed_none position),
    ready_inBlock skips (refreshed_none position)]
  have same : (inBlock keyAllowed position content log (indent :: indents) none).closeBlocks =
      (inBlock keyAllowed position content (log.append [.blockEnd]) indents none).closeBlocks := by
    rw [closeBlocks, closeBlocks, if_neg (by rintro ⟨⟩), if_neg (by rintro ⟨⟩), column_inBlock,
      column_inBlock, indents_inBlock, indents_inBlock, closes]
    dsimp only [inBlock]
    rw [TokenLog.pushMany_succ]
  rw [same]

/-- At the end of the text, one collection that is still open is closed. -/
theorem run_of_advances {s : Scanner}
    (advances : Advances s (inBlock true position [] log [0] none)) :
    run (s.rest.length + 1) s = .ok (log.toList ++ [.blockEnd]) := by
  have ready : (inBlock true position [] log [0] none).ready =
      .ok (inBlock true position [] log [0] none) := by
    rw [ready_inBlock
      (show skipBlanks false true false position [] = (true, ⟨position, []⟩) from rfl)
      (refreshed_none position),
      closeBlocks_of_within (within_cons_iff.2 (Nat.zero_le _))]
  rw [advances.run_eq ready rfl]
  change Except.ok (log.pushMany 1 .blockEnd).toList = _
  rw [TokenLog.toList_pushMany]
  rfl

end

end Scanner

end WorkspaceVolumes.Yaml
