import LowPing.Library.Machine

/-!
# Boolean filter expressions

Expressions over tests with `not`, `and` and `or`, which bind in this order, and parentheses. The
reader takes one token after the other; it keeps a frame for each open parenthesis. What a sequence
of tokens does to the frame it is read in is stated for any tokens after it (`Reads`), so readings
compose. Below the tokens are words, set apart by blanks and parentheses.
-/

namespace LowPing.Library

open Machine (run run_append)

/-- A filter expression. -/
inductive FilterExpr (α : Type) where
  /-- A test. -/
  | test (test : α)
  /-- A negation. -/
  | not (operand : FilterExpr α)
  /-- A conjunction. -/
  | and (left right : FilterExpr α)
  /-- A disjunction. -/
  | or (left right : FilterExpr α)
  deriving DecidableEq

/-- Whether an expression holds where tests do. -/
def FilterExpr.eval {α : Type} (holds : α → Bool) : FilterExpr α → Bool
  | .test atom => holds atom
  | .not operand => !operand.eval holds
  | .and left right => left.eval holds && right.eval holds
  | .or left right => left.eval holds || right.eval holds

/-- The disjunction of a sequence. -/
def FilterExpr.any {α : Type} (first : FilterExpr α) (rest : List (FilterExpr α)) : FilterExpr α :=
  rest.foldl .or first

/-- A disjunction holds if one of its members does. -/
theorem FilterExpr.eval_any {α : Type} (holds : α → Bool) (first : FilterExpr α)
    (rest : List (FilterExpr α)) :
    (first.any rest).eval holds = (first :: rest).any fun member => member.eval holds := by
  induction rest generalizing first with
  | nil => simp [FilterExpr.any]
  | cons second rest ih =>
    have folded : first.any (second :: rest) = (FilterExpr.or first second).any rest := rfl
    rw [folded, ih]
    simp [FilterExpr.eval, Bool.or_assoc]

/-! ## Tokens -/

/-- A token. -/
inductive Token (α : Type) where
  /-- A test. -/
  | test (test : α)
  /-- `not`. -/
  | not
  /-- `and`. -/
  | and
  /-- `or`. -/
  | or
  /-- An opening parenthesis. -/
  | opening
  /-- A closing parenthesis. -/
  | closing
  deriving DecidableEq

/-- What has been read since an opening parenthesis. -/
structure Frame (α : Type) where
  /-- The alternatives before the last `or`. -/
  alternatives : Option (FilterExpr α)
  /-- The factors read of the current alternative. -/
  factors : Option (FilterExpr α)
  /-- Whether the next operand is negated. -/
  negated : Bool
  /-- Whether an operand comes next. -/
  awaiting : Bool

/-- Nothing has been read. -/
def Frame.start {α : Type} : Frame α := ⟨none, none, false, true⟩

variable {α : Type}

/-- An operand is read. -/
def Frame.operand (frame : Frame α) (read : FilterExpr α) : Frame α :=
  let factor := if frame.negated then .not read else read
  { frame with
    factors := some (match frame.factors with
      | none => factor
      | some factors => .and factors factor)
    negated := false
    awaiting := false }

/-- What a frame amounts to where it may end. -/
def Frame.value (frame : Frame α) : Option (FilterExpr α) :=
  if frame.awaiting then none
  else frame.factors.map fun factors =>
    match frame.alternatives with
    | none => factors
    | some alternatives => .or alternatives factors

/-- The innermost frame and those around it. -/
abbrev Frames (α : Type) := Frame α × List (Frame α)

/-- One token is read. -/
def readToken : Frames α → Token α → Option (Frames α)
  | (frame, outer), .test test =>
    if frame.awaiting then some (frame.operand (.test test), outer) else none
  | (frame, outer), .not =>
    if frame.awaiting then some ({ frame with negated := !frame.negated }, outer) else none
  | (frame, outer), .and =>
    if frame.awaiting then none else some ({ frame with awaiting := true }, outer)
  | (frame, outer), .or =>
    frame.value.map fun value => (⟨some value, none, false, true⟩, outer)
  | (frame, outer), .opening => if frame.awaiting then some (.start, frame :: outer) else none
  | (frame, outer), .closing =>
    match frame.value, outer with
    | some value, around :: outer => some (around.operand value, outer)
    | _, _ => none

/-- The expression a sequence of tokens spells. -/
def readTokens (tokens : List (Token α)) : Option (FilterExpr α) :=
  match run readToken (.start, []) tokens with
  | some (frame, []) => frame.value
  | _ => none

/-! ## Readings -/

/-- Wherever an operand is awaited, tokens are read as that operand. -/
def Reads (tokens : List (Token α)) (operand : FilterExpr α) : Prop :=
  ∀ frame outer rest, frame.awaiting = true →
    run readToken (frame, outer) (tokens ++ rest) =
      run readToken (frame.operand operand, outer) rest

/-- Wherever an operand is awaited and no `not` came before, tokens are read as that operand. -/
def ReadsFactor (tokens : List (Token α)) (factor : FilterExpr α) : Prop :=
  ∀ frame outer rest, frame.awaiting = true → frame.negated = false →
    run readToken (frame, outer) (tokens ++ rest) = run readToken (frame.operand factor, outer) rest

/-- From the start tokens are read as a conjunction of factors. -/
def ReadsFactors (tokens : List (Token α)) (factors : FilterExpr α) : Prop :=
  ∀ outer rest, run readToken (.start, outer) (tokens ++ rest) =
    run readToken (⟨none, some factors, false, false⟩, outer) rest

/-- From the start tokens are read as an expression. -/
def ReadsAll (tokens : List (Token α)) (expression : FilterExpr α) : Prop :=
  ∀ outer rest, ∃ frame : Frame α, frame.value = some expression ∧
    run readToken (.start, outer) (tokens ++ rest) = run readToken (frame, outer) rest

section

variable {tokens more : List (Token α)} {left right : FilterExpr α}

/-- A test is an operand. -/
theorem reads_test (atom : α) : Reads [.test atom] (.test atom) := by
  intro frame outer rest awaiting
  simp [run, readToken, awaiting]

/-- An expression in parentheses is an operand. -/
theorem reads_parenthesised (reads : ReadsAll tokens left) :
    Reads (.opening :: tokens ++ [.closing]) left := by
  intro frame outer rest awaiting
  obtain ⟨inner, value, reached⟩ := reads (frame :: outer) (.closing :: rest)
  have opened : readToken (frame, outer) .opening = some (.start, frame :: outer) := by
    simp [readToken, awaiting]
  have closed : readToken (inner, frame :: outer) .closing = some (frame.operand left, outer) := by
    simp [readToken, value]
  have split : Token.opening :: tokens ++ [.closing] ++ rest =
      .opening :: (tokens ++ .closing :: rest) := by
    simp
  rw [split, run, opened, Option.bind_some, reached, run, closed, Option.bind_some]

/-- An operand is a factor. -/
theorem Reads.factor (reads : Reads tokens left) : ReadsFactor tokens left :=
  fun frame outer rest awaiting _ => reads frame outer rest awaiting

/-- A negated operand is a factor. -/
theorem Reads.not (reads : Reads tokens left) : ReadsFactor (.not :: tokens) (.not left) := by
  intro frame outer rest awaiting positive
  have taken : readToken (frame, outer) .not = some ({ frame with negated := true }, outer) := by
    simp [readToken, awaiting, positive]
  have negated : Frame.operand { frame with negated := true } left =
      frame.operand (.not left) := by
    simp [Frame.operand, positive]
  have read := reads { frame with negated := true } outer rest awaiting
  rw [List.cons_append, run, taken, Option.bind_some, read, negated]

/-- A factor alone is a conjunction. -/
theorem ReadsFactor.factors (reads : ReadsFactor tokens left) : ReadsFactors tokens left := by
  intro outer rest
  exact reads .start outer rest rfl rfl

/-- One more factor. -/
theorem ReadsFactors.and (reads : ReadsFactors tokens left) (next : ReadsFactor more right) :
    ReadsFactors (tokens ++ .and :: more) (.and left right) := by
  intro outer rest
  have taken : readToken ((⟨none, some left, false, false⟩ : Frame α), outer) .and =
      some (⟨none, some left, false, true⟩, outer) := rfl
  rw [List.append_assoc, reads outer, List.cons_append, run, taken, Option.bind_some,
    next _ outer rest rfl rfl]
  rfl

/-- An operand alone is an expression. -/
theorem Reads.all (reads : Reads tokens left) : ReadsAll tokens left := by
  intro outer rest
  exact ⟨⟨none, some left, false, false⟩, rfl, reads .start outer rest rfl⟩

/-- A conjunction is an expression. -/
theorem ReadsFactors.all (reads : ReadsFactors tokens left) : ReadsAll tokens left := by
  intro outer rest
  exact ⟨⟨none, some left, false, false⟩, rfl, reads outer rest⟩

/-- One more alternative. -/
theorem ReadsAll.or (reads : ReadsAll tokens left) (next : Reads more right) :
    ReadsAll (tokens ++ .or :: more) (.or left right) := by
  intro outer rest
  obtain ⟨frame, value, reached⟩ := reads outer (.or :: more ++ rest)
  have taken : readToken (frame, outer) .or = some (⟨some left, none, false, true⟩, outer) := by
    simp [readToken, value]
  refine ⟨⟨some left, some right, false, false⟩, rfl, ?_⟩
  rw [List.append_assoc, reached, List.cons_append, run, taken, Option.bind_some,
    next _ outer rest rfl]
  rfl

/-- A sequence of alternatives. -/
theorem ReadsAll.any {ι : Type} {spelled : ι → List (Token α)} {member : ι → FilterExpr α}
    (reads : ReadsAll tokens left) (items : List ι)
    (each : ∀ item ∈ items, Reads (spelled item) (member item)) :
    ReadsAll (tokens ++ items.flatMap fun item => .or :: spelled item)
      (left.any (items.map member)) := by
  induction items generalizing tokens left with
  | nil =>
    rw [List.flatMap_nil, List.append_nil]
    exact reads
  | cons item items ih =>
    have first := reads.or (each item List.mem_cons_self)
    have later := ih first fun other listed => each other (List.mem_cons_of_mem _ listed)
    rw [List.flatMap_cons, ← List.append_assoc]
    exact later

/-- Tokens that are read as an expression spell it. -/
theorem readTokens_of_readsAll (reads : ReadsAll tokens left) :
    readTokens tokens = some left := by
  obtain ⟨frame, value, reached⟩ := reads [] []
  rw [List.append_nil] at reached
  rw [readTokens, reached]
  exact value

end

/-- Tokens with an empty pair of parentheses among them spell nothing. -/
theorem readTokens_empty_parentheses (before after : List (Token α)) :
    readTokens (before ++ .opening :: .closing :: after) = none := by
  have stuck (state : Frames α) :
      run readToken state (.opening :: .closing :: after) = none := by
    obtain ⟨frame, outer⟩ := state
    cases awaits : frame.awaiting with
    | true =>
      have opened : readToken (frame, outer) .opening = some (.start, frame :: outer) := by
        simp [readToken, awaits]
      have unclosed : readToken (Frame.start, frame :: outer) .closing = none := rfl
      rw [run, opened, Option.bind_some, run, unclosed, Option.bind_none]
    | false =>
      have unopened : readToken (frame, outer) .opening = none := by
        simp [readToken, awaits]
      rw [run, unopened, Option.bind_none]
  rw [readTokens, run_append]
  cases run readToken (Frame.start, []) before with
  | none => rfl
  | some middle =>
    rw [Option.bind_some, stuck]

/-! ## Words -/

/-- Blanks and parentheses set words apart. -/
def separates (c : Char) : Bool := c = ' ' || c = '(' || c = ')'

/-- A word if it is not empty. -/
def flushWord (held : List Char) : List String := if held = [] then [] else [.ofList held]

/-- The words of a text, where part of a word is held. -/
def wordsFrom (held : List Char) : List Char → List String
  | [] => flushWord held
  | c :: rest =>
    if c = ' ' then flushWord held ++ wordsFrom [] rest
    else if c = '(' || c = ')' then flushWord held ++ .ofList [c] :: wordsFrom [] rest
    else wordsFrom (held ++ [c]) rest

/-- The words of a text. -/
def textWords (text : String) : List String := wordsFrom [] text.toList

/-- Where a word ends. -/
def Boundary (rest : List Char) : Prop := ∀ c ∈ rest.head?, separates c = true

/-- Before a boundary a text is read as words. -/
def Spells (text : String) (words : List String) : Prop :=
  ∀ rest, Boundary rest → wordsFrom [] (text.toList ++ rest) = words ++ wordsFrom [] rest

/-- A word that is not empty and has no separator in it. -/
def plain (word : String) : Bool := !word.toList.isEmpty && word.toList.all fun c => !separates c

section

variable {text more : String} {first second : List String}

/-- Characters that do not separate are held. -/
theorem wordsFrom_plain {held chars rest : List Char}
    (unseparated : ∀ c ∈ chars, separates c = false) :
    wordsFrom held (chars ++ rest) = wordsFrom (held ++ chars) rest := by
  induction chars generalizing held with
  | nil => rw [List.nil_append, List.append_nil]
  | cons c chars ih =>
    have here : separates c = false := unseparated c List.mem_cons_self
    have taken : wordsFrom held (c :: (chars ++ rest)) =
        wordsFrom (held ++ [c]) (chars ++ rest) := by
      have blank : c ≠ ' ' := by
        intro same
        rw [same] at here
        contradiction
      have bracket : ¬ (c = '(' || c = ')') = true := by
        intro same
        rw [separates, Bool.or_assoc, same, Bool.or_true] at here
        contradiction
      rw [wordsFrom, if_neg blank, if_neg bracket]
    rw [List.cons_append, taken, ih fun d later => unseparated d (List.mem_cons_of_mem _ later),
      List.append_assoc, List.singleton_append]

/-- A held word ends at a boundary. -/
theorem wordsFrom_boundary {held rest : List Char} (boundary : Boundary rest) :
    wordsFrom held rest = flushWord held ++ wordsFrom [] rest := by
  cases rest with
  | nil => simp [wordsFrom, flushWord]
  | cons c rest =>
    have here : separates c = true := boundary c rfl
    by_cases blank : c = ' '
    · rw [wordsFrom, wordsFrom, if_pos blank, if_pos blank]
      simp [flushWord]
    · have bracket : (c = '(' || c = ')') = true := by simpa [separates, blank] using here
      rw [wordsFrom, wordsFrom, if_neg blank, if_neg blank, if_pos bracket, if_pos bracket]
      simp [flushWord]

/-- A plain word is one. -/
theorem spells_word {word : String} (isPlain : plain word = true) : Spells word [word] := by
  intro rest boundary
  have parts : word.toList ≠ [] ∧ ∀ c ∈ word.toList, separates c = false := by
    simpa [plain] using isPlain
  rw [wordsFrom_plain parts.2, List.nil_append, wordsFrom_boundary boundary, flushWord,
    if_neg parts.1, String.ofList_toList]

/-- Texts with a blank between them. -/
theorem Spells.blank (left : Spells text first) (right : Spells more second) :
    Spells (text ++ " " ++ more) (first ++ second) := by
  intro rest boundary
  have split : (text ++ " " ++ more).toList ++ rest =
      text.toList ++ ' ' :: (more.toList ++ rest) := by
    simp
  have skipped : wordsFrom [] (' ' :: (more.toList ++ rest)) =
      wordsFrom [] (more.toList ++ rest) := rfl
  have ends : Boundary (' ' :: (more.toList ++ rest)) := by
    intro c head
    obtain rfl := Option.some.inj head
    rfl
  rw [split, left _ ends, skipped, right rest boundary, List.append_assoc]

/-- A text in parentheses. -/
theorem Spells.parenthesised (inner : Spells text first) :
    Spells ("(" ++ text ++ ")") ("(" :: first ++ [")"]) := by
  intro rest _
  have split : ("(" ++ text ++ ")").toList ++ rest = '(' :: (text.toList ++ ')' :: rest) := by
    simp
  have opened : wordsFrom [] ('(' :: (text.toList ++ ')' :: rest)) =
      "(" :: wordsFrom [] (text.toList ++ ')' :: rest) := rfl
  have closed : wordsFrom [] (')' :: rest) = ")" :: wordsFrom [] rest := rfl
  have ends : Boundary (')' :: rest) := by
    intro c head
    obtain rfl := Option.some.inj head
    rfl
  rw [split, opened, inner _ ends, closed]
  simp

/-- A text has the words it spells. -/
theorem Spells.words (spells : Spells text first) : textWords text = first := by
  have ends : Boundary [] := by
    intro c head
    contradiction
  have read := spells [] ends
  have none : wordsFrom [] [] = [] := rfl
  rw [List.append_nil, none, List.append_nil] at read
  exact read

end

end LowPing.Library
