import Mathlib.Data.List.Chain

/-!
# Sentences of a filter grammar

Filters as grammars of packet filters write them: tests of a field, connected by `and` and `or`, in
parentheses or chosen by a condition, where `not` belongs to a test. Which symbols may stand next to
each other in a sentence follows from the productions, so a text with two that may not is none.
-/

namespace LowPing.Library

/-- A symbol of a filter, as far as the grammar tells symbols apart. -/
inductive FilterSymbol where
  /-- `true` or `false`. -/
  | constant
  /-- A field or a value. -/
  | word
  /-- A comparison. -/
  | comparison
  /-- `not`. -/
  | not
  /-- `and`. -/
  | and
  /-- `or`. -/
  | or
  /-- The question mark of a conditional. -/
  | question
  /-- Its colon. -/
  | colon
  /-- An opening parenthesis. -/
  | opening
  /-- A closing parenthesis. -/
  | closing
  /-- No symbol of the grammar. -/
  | other
  deriving DecidableEq

/-- `TEST0 := FIELD | FIELD op VAL`. -/
inductive IsTest : List FilterSymbol → Prop where
  /-- A field alone. -/
  | field : IsTest [.word]
  /-- A field compared with a value. -/
  | compared : IsTest [.word, .comparison, .word]

/-- `FILTER`, with `TEST := TEST0 | not TEST0`. -/
inductive IsFilter : List FilterSymbol → Prop where
  /-- `true | false`. -/
  | constant : IsFilter [.constant]
  /-- `TEST0`. -/
  | test {test : List FilterSymbol} (isTest : IsTest test) : IsFilter test
  /-- `not TEST0`. -/
  | negated {test : List FilterSymbol} (isTest : IsTest test) : IsFilter (.not :: test)
  /-- `FILTER and FILTER`. -/
  | and {left right : List FilterSymbol} (first : IsFilter left) (second : IsFilter right) :
      IsFilter (left ++ .and :: right)
  /-- `FILTER or FILTER`. -/
  | or {left right : List FilterSymbol} (first : IsFilter left) (second : IsFilter right) :
      IsFilter (left ++ .or :: right)
  /-- `(FILTER)`. -/
  | parenthesised {inner : List FilterSymbol} (filter : IsFilter inner) :
      IsFilter (.opening :: inner ++ [.closing])
  /-- `(FILTER ? FILTER : FILTER)`. -/
  | conditional {condition left right : List FilterSymbol} (asked : IsFilter condition)
      (first : IsFilter left) (second : IsFilter right) :
      IsFilter (.opening :: (condition ++ .question :: (left ++ .colon :: right)) ++ [.closing])

/-! ## Neighbours -/

/-- Whether a filter may start with a symbol. -/
def FilterSymbol.starts : FilterSymbol → Bool
  | .constant | .word | .not | .opening => true
  | _ => false

/-- Whether a filter may end with a symbol. -/
def FilterSymbol.ends : FilterSymbol → Bool
  | .constant | .word | .closing => true
  | _ => false

/-- Whether a symbol stands between two filters. -/
def FilterSymbol.connects : FilterSymbol → Bool
  | .and | .or | .question | .colon => true
  | _ => false

/-- Whether one symbol may stand after another. -/
def mayFollow : FilterSymbol → FilterSymbol → Bool
  | .not, next | .comparison, next => next = .word
  | .word, next => next = .comparison || next.connects || next = .closing
  | .constant, next | .closing, next => next.connects || next = .closing
  | .other, _ => false
  | _, next => next.starts

/-- A sequence of symbols with the neighbours and the ends of a filter. -/
structure Fits (symbols : List FilterSymbol) : Prop where
  /-- Its first symbol. -/
  first : ∃ symbol, symbols.head? = some symbol ∧ symbol.starts = true
  /-- Its last symbol. -/
  last : ∃ symbol, symbols.getLast? = some symbol ∧ symbol.ends = true
  /-- Neighbours. -/
  chain : symbols.IsChain fun left right => mayFollow left right = true

section

variable {symbols left right test : List FilterSymbol} {symbol next : FilterSymbol}

/-- Between two filters stands what connects them. -/
theorem mayFollow_connects (ends : symbol.ends = true) (connects : next.connects = true) :
    mayFollow symbol next = true := by
  cases symbol <;> simp_all [mayFollow, FilterSymbol.ends]

/-- After a connecting symbol the next filter starts. -/
theorem mayFollow_starts (connects : symbol.connects = true) (starts : next.starts = true) :
    mayFollow symbol next = true := by
  cases symbol <;> simp_all [mayFollow, FilterSymbol.connects]

/-- A filter in parentheses may end where it ends. -/
theorem mayFollow_closing (ends : symbol.ends = true) : mayFollow symbol .closing = true := by
  cases symbol <;> simp_all [mayFollow, FilterSymbol.ends]

/-- Two filters with a symbol between them. -/
theorem Fits.connect (one : Fits left) (two : Fits right) (connects : symbol.connects = true) :
    Fits (left ++ symbol :: right) := by
  obtain ⟨start, head, starts⟩ := one.first
  obtain ⟨stop, tail, ends⟩ := one.last
  obtain ⟨second, headRight, startsRight⟩ := two.first
  obtain ⟨final, tailRight, endsRight⟩ := two.last
  refine ⟨⟨start, ?_, starts⟩, ⟨final, ?_, endsRight⟩, ?_⟩
  · rw [List.head?_append, head, Option.some_or]
  · rw [List.getLast?_append, List.getLast?_cons, tailRight]
    rfl
  · refine List.isChain_append.mpr ⟨one.chain, List.isChain_cons.mpr ⟨?_, two.chain⟩, ?_⟩
    · intro next found
      obtain rfl := Option.some.inj (headRight.symm.trans found)
      exact mayFollow_starts connects startsRight
    · intro last found next same
      obtain rfl := Option.some.inj (tail.symm.trans found)
      obtain rfl := Option.some.inj same
      exact mayFollow_connects ends connects

/-- A filter in parentheses. -/
theorem Fits.parenthesised (inner : Fits symbols) : Fits (.opening :: symbols ++ [.closing]) := by
  obtain ⟨start, head, starts⟩ := inner.first
  obtain ⟨stop, tail, ends⟩ := inner.last
  refine ⟨⟨.opening, rfl, rfl⟩, ⟨.closing, List.getLast?_concat, rfl⟩, ?_⟩
  rw [List.cons_append]
  refine List.isChain_cons.mpr ⟨?_, List.isChain_append.mpr ⟨inner.chain, .singleton _, ?_⟩⟩
  · intro next found
    rw [List.head?_append, head, Option.some_or] at found
    obtain rfl := Option.some.inj found
    exact starts
  · intro last found next same
    obtain rfl := Option.some.inj (tail.symm.trans found)
    obtain rfl := Option.some.inj same
    exact mayFollow_closing ends

/-- A test starts with its field. -/
theorem IsTest.fits (isTest : IsTest test) : Fits test ∧ test.head? = some .word := by
  cases isTest with
  | field => exact ⟨⟨⟨.word, rfl, rfl⟩, ⟨.word, rfl, rfl⟩, .singleton _⟩, rfl⟩
  | compared =>
    refine ⟨⟨⟨.word, rfl, rfl⟩, ⟨.word, rfl, rfl⟩, ?_⟩, rfl⟩
    simp [mayFollow]

/-- Every sentence has the neighbours and ends of a filter. -/
theorem IsFilter.fits (filter : IsFilter symbols) : Fits symbols := by
  induction filter with
  | constant => exact ⟨⟨.constant, rfl, rfl⟩, ⟨.constant, rfl, rfl⟩, .singleton _⟩
  | test isTest => exact isTest.fits.1
  | @negated test isTest =>
    obtain ⟨fits, head⟩ := isTest.fits
    obtain ⟨stop, tail, ends⟩ := fits.last
    refine ⟨⟨.not, rfl, rfl⟩, ⟨stop, ?_, ends⟩, List.isChain_cons.mpr ⟨?_, fits.chain⟩⟩
    · rw [List.getLast?_cons, tail]
      rfl
    · intro next found
      obtain rfl := Option.some.inj (head.symm.trans found)
      rfl
  | and _ _ left right => exact left.connect right rfl
  | or _ _ left right => exact left.connect right rfl
  | parenthesised _ inner => exact inner.parenthesised
  | conditional _ _ _ condition left right =>
    exact (condition.connect (left.connect right rfl) rfl).parenthesised

/-- What has neighbours of which the second may not follow the first is no sentence. -/
theorem not_isFilter (unfit : mayFollow symbol next = false)
    (within : [symbol, next] <:+: symbols) : ¬ IsFilter symbols := by
  intro filter
  have follows := List.isChain_pair.mp <| List.IsChain.infix filter.fits.chain within
  rw [unfit] at follows
  contradiction

end

end LowPing.Library
