import VelocityScript.Proofs.Script.Lexing
import VelocityScript.Proofs.Script.Precedence
import VelocityScript.Proofs.Script.Rendering

/-!
# Looking at rendered tokens

Behind a rendered token stands a space, the end of the text or a semicolon.  So
the lexer finds the token as a whole and nothing beyond it.  What it finds at
the front of a rendered expression and behind it decides which rules of the
grammar apply.
-/

namespace VelocityScript.Script

open VelocityScript.Script.Parser

/-- A text with which no token that ends in front of it goes on. -/
inductive IsBounded : List Char → Prop
  | ended : IsBounded []
  | spaced (rest : List Char) : IsBounded (' ' :: rest)
  | terminated (rest : List Char) : IsBounded (';' :: rest)

theorem IsBounded.ofTokens {rest : List Char} (bounded : IsBounded rest) :
    ∀ tokens : List Token, IsBounded (Script.spaced tokens rest)
  | [] => bounded
  | _ :: _ => .spaced _

/-! ## Characters of words and numbers -/

/-- The codes of the characters that separate tokens. -/
def spaceCodes : List Nat :=
  List.range' 9 5 ++ [0x20, 0x85, 0xA0, 0x1680] ++ List.range' 0x2000 11 ++
    [0x2028, 0x2029, 0x202F, 0x205F, 0x3000, 0xFEFF]

theorem toNat_mem_spaceCodes {character : Char}
    (space : isSpace character = true) : character.toNat ∈ spaceCodes := by
  simp only [isSpace, isBlank, Bool.or_eq_true, Bool.and_eq_true,
    decide_eq_true_eq, beq_iff_eq] at space
  simp only [spaceCodes, List.mem_append, List.mem_range'_1, List.mem_cons,
    List.not_mem_nil, or_false]
  omega

/-- A kind of characters that has none of the codes has no space. -/
theorem isSpace_eq_false {kind : Char → Bool} {character : Char}
    (codes : (spaceCodes.any fun code => kind (Char.ofNat code)) = false)
    (holds : kind character = true) : isSpace character = false := by
  rw [Bool.eq_false_iff]
  intro space
  have other := List.any_eq_false.mp codes character.toNat
    (toNat_mem_spaceCodes space)
  rw [Char.ofNat_toNat] at other
  exact other holds

/-- No word starts with a space. -/
theorem isSpace_of_isNameStart {character : Char}
    (starts : isNameStart character = true) : isSpace character = false := by
  have codes : (spaceCodes.any fun code => isNameStart (Char.ofNat code)) =
      false := by
    decide +kernel
  exact isSpace_eq_false codes starts

theorem toNat_of_isDigit {character : Char} (digit : character.isDigit = true) :
    48 ≤ character.toNat ∧ character.toNat ≤ 57 := by
  simpa [Char.isDigit, UInt32.le_iff_toNat_le] using digit

/-- A character at which a word or a number starts. -/
def startsText (character : Char) : Bool :=
  isNameStart character || character.isDigit

theorem isSpace_of_startsText {character : Char}
    (starts : startsText character = true) : isSpace character = false := by
  rcases Bool.or_eq_true_iff.mp starts with named | digit
  · exact isSpace_of_isNameStart named
  · have bounds := toNat_of_isDigit digit
    rw [Bool.eq_false_iff]
    intro space
    simp only [isSpace, isBlank, Bool.or_eq_true, Bool.and_eq_true,
      decide_eq_true_eq, beq_iff_eq] at space
    omega

theorem isNameStart_of_isDigit {character : Char}
    (digit : character.isDigit = true) : isNameStart character = false := by
  have codes : ∀ code ∈ List.range' 48 10,
      isNameStart (Char.ofNat code) = false := by
    decide
  have bounds := toNat_of_isDigit digit
  have other := codes character.toNat (List.mem_range'_1.mpr (by omega))
  rwa [Char.ofNat_toNat] at other

theorem ne_of_test {test : Char → Bool} {first : Char} (second : Char)
    (holds : test first = true) (fails : test second = false := by decide) :
    first ≠ second := by
  rintro rfl
  rw [holds] at fails
  cases fails

theorem triviaLength_eq_zero {character : Char} {rest : List Char}
    (token : isSpace character = false) (slash : character ≠ '/') :
    triviaLength .between (character :: rest) = 0 := by
  unfold triviaLength
  split
  · next same =>
      injection same with first
      exact (slash first).elim
  · next same =>
      injection same with first
      exact (slash first).elim
  · next same =>
      injection same with first
      rw [← first, token]
      rfl
  all_goals contradiction

/-- No punctuator starts like a word or a number. -/
theorem atFront?_eq_none {character : Char} {rest : List Char}
    (starts : startsText character = true) :
    Punctuator.atFront? (character :: rest) = none := by
  have fails : ∀ mark : Punctuator,
      (mark.characters.head?.map startsText).getD false = false := by
    intro mark
    cases mark <;> rfl
  unfold Punctuator.atFront?
  rw [List.find?_eq_none]
  intro mark _ front
  have failed := fails mark
  cases standing : mark.characters with
  | nil => exact mark.characters_ne_nil standing
  | cons first others =>
      rw [standing] at front failed
      simp only [List.isPrefixOf_cons_cons, Bool.and_eq_true, beq_iff_eq] at front
      simp only [List.head?_cons, Option.map_some, Option.getD_some, front.1,
        starts] at failed
      cases failed

/-- A word starts like one and goes on to its end. -/
theorem exists_of_isWord {name : String} (word : isWord name = true) :
    ∃ first others, name.toList = first :: others ∧
      isNameStart first = true ∧ ∀ next ∈ others, isNamePart next = true := by
  unfold isWord at word
  rw [beq_iff_eq] at word
  cases spelled : name.toList with
  | nil =>
      rw [spelled] at word
      cases word
  | cons first others =>
      rw [spelled, wordAtFront?] at word
      split at word
      · next starts =>
          injection word with same
          injection same with _ run
          refine ⟨first, others, rfl, starts, ?_⟩
          rw [← run]
          exact List.all_eq_true.mp List.all_takeWhile
      · cases word

theorem isNamePart_of_isWord {name : String} (word : isWord name = true) :
    ∀ character ∈ name.toList, isNamePart character = true := by
  obtain ⟨first, others, spelled, starts, goesOn⟩ := exists_of_isWord word
  have firstPart : isNamePart first = true := by
    rw [isNamePart, starts]
    rfl
  rw [spelled]
  exact List.forall_mem_cons.mpr ⟨firstPart, goesOn⟩

theorem wordAtFront?_append {name : String} {rest : List Char}
    (word : isWord name = true) (bounded : IsBounded rest) :
    wordAtFront? (name.toList ++ rest) = some name.toList := by
  obtain ⟨first, others, spelled, starts, goesOn⟩ := exists_of_isWord word
  have stops : rest.takeWhile isNamePart = [] := by
    cases bounded <;> rfl
  rw [spelled, List.cons_append, wordAtFront?, if_pos starts,
    List.takeWhile_append_of_pos goesOn, stops, List.append_nil]

theorem exists_of_isInteger {text : String} (integer : isInteger text = true) :
    ∃ first others, text.toList = first :: others ∧ first.isDigit = true ∧
      ∀ next ∈ others, isDigitOrSeparator next = true := by
  unfold isInteger at integer
  split at integer
  · next first others spelled =>
      rw [Bool.and_eq_true, List.all_eq_true] at integer
      exact ⟨first, others, spelled, integer.1, integer.2⟩
  · cases integer

theorem isDigitOrSeparator_of_isInteger {text : String}
    (integer : isInteger text = true) :
    ∀ character ∈ text.toList, isDigitOrSeparator character = true := by
  obtain ⟨first, others, spelled, digit, goesOn⟩ := exists_of_isInteger integer
  have firstPart : isDigitOrSeparator first = true := by
    rw [isDigitOrSeparator, digit]
    rfl
  rw [spelled]
  exact List.forall_mem_cons.mpr ⟨firstPart, goesOn⟩

/-- What stands at the front of a word or a number. -/
theorem exists_startsText {token : Token} (spelled : token.isSpelled = true)
    (text : token.punctuator? = none) :
    ∃ first others, token.characters = first :: others ∧
      startsText first = true := by
  cases token with
  | word name =>
      obtain ⟨first, others, same, starts, -⟩ := exists_of_isWord spelled
      exact ⟨first, others, same, by rw [startsText, starts, Bool.true_or]⟩
  | number text =>
      obtain ⟨first, others, same, digit, -⟩ := exists_of_isInteger spelled
      exact ⟨first, others, same, by rw [startsText, digit, Bool.or_true]⟩
  | punctuator mark => cases text

/-! ## Looking at a rendered token -/

/-- The next token at a cursor, with the text behind it. -/
structure Cursor.Faces (cursor : Cursor) (token : Token) (rest : List Char) :
    Prop where
  front : cursor.tokenStart.rest = token.characters ++ rest
  punctuator : cursor.punctuator? = token.punctuator?
  word : cursor.word? = token.word?

namespace Cursor.Faces

variable {cursor : Cursor} {token : Token} {rest : List Char}

theorem sees (faces : cursor.Faces token rest) (mark : Punctuator) :
    cursor.sees mark = (token.punctuator? == some mark) := by
  rw [Cursor.sees, faces.punctuator]

theorem seesWord (faces : cursor.Faces token rest) (word : String) :
    cursor.seesWord word = (token.word? == some word) := by
  rw [Cursor.seesWord, faces.word]

/-- A condition on the next token says which punctuators it cannot be. -/
theorem sees_eq_false {test : Token → Bool} (faces : cursor.Faces token rest)
    (holds : test token = true) (mark : Punctuator)
    (fails : test (.punctuator mark) = false := by rfl) :
    cursor.sees mark = false := by
  rw [faces.sees, beq_eq_false_iff_ne]
  intro same
  rw [Token.eq_punctuator same, fails] at holds
  cases holds

theorem seesWord_eq_false {test : Token → Bool}
    (faces : cursor.Faces token rest) (holds : test token = true)
    (word : String) (fails : test (.word word) = false := by rfl) :
    cursor.seesWord word = false := by
  rw [faces.seesWord, beq_eq_false_iff_ne]
  intro same
  rw [Token.eq_word same, fails] at holds
  cases holds

/-- Passing the token leads to what stands behind it. -/
theorem rest_advance (faces : cursor.Faces token rest) :
    (cursor.tokenStart.advance token.characters.length).rest = rest := by
  rw [Cursor.advance, faces.front]
  exact List.drop_left

end Cursor.Faces

theorem Cursor.tokenStart_rest {cursor : Cursor} {text : List Char}
    (token : triviaLength .between text = 0)
    (ahead : cursor.rest = text ∨ cursor.rest = ' ' :: text) :
    cursor.tokenStart.rest = text := by
  rcases ahead with standing | standing
  · rw [Cursor.tokenStart, Cursor.triviaCount, standing, token]
    exact standing
  · have count : triviaLength .between (' ' :: text) = 1 :=
      congrArg (· + 1) token
    rw [Cursor.tokenStart, Cursor.triviaCount, standing, count, Cursor.advance,
      standing]
    rfl

theorem Token.triviaLength_append {token : Token} {rest : List Char}
    (spelled : token.isSpelled = true) (bounded : IsBounded rest) :
    triviaLength .between (token.characters ++ rest) = 0 := by
  cases named : token.punctuator? with
  | some mark =>
      obtain rfl := Token.eq_punctuator named
      cases bounded <;> cases mark <;> rfl
  | none =>
      obtain ⟨first, others, same, starts⟩ := exists_startsText spelled named
      rw [same]
      exact triviaLength_eq_zero (isSpace_of_startsText starts)
        (ne_of_test '/' starts)

theorem Token.atFront?_append {token : Token} {rest : List Char}
    (spelled : token.isSpelled = true) (bounded : IsBounded rest) :
    Punctuator.atFront? (token.characters ++ rest) = token.punctuator? := by
  cases named : token.punctuator? with
  | some mark =>
      obtain rfl := Token.eq_punctuator named
      cases bounded <;> cases mark <;> rfl
  | none =>
      obtain ⟨first, others, same, starts⟩ := exists_startsText spelled named
      rw [same]
      exact atFront?_eq_none starts

theorem Token.wordAtFront?_append {token : Token} {rest : List Char}
    (spelled : token.isSpelled = true) (bounded : IsBounded rest) :
    wordAtFront? (token.characters ++ rest) =
      token.word?.map String.toList := by
  cases token with
  | punctuator mark => cases mark <;> rfl
  | word name => exact Script.wordAtFront?_append spelled bounded
  | number text =>
      obtain ⟨first, others, same, digit, -⟩ := exists_of_isInteger spelled
      have other := isNameStart_of_isDigit digit
      have standing : (Token.number text).characters = first :: others := same
      rw [standing, List.cons_append, wordAtFront?, other]
      rfl

/-- A spelled token with a bounded text behind it is the next one. -/
theorem Cursor.faces_of_isSpelled {cursor : Cursor} {token : Token}
    {rest : List Char} (spelled : token.isSpelled = true)
    (bounded : IsBounded rest)
    (ahead : cursor.rest = token.characters ++ rest ∨
      cursor.rest = ' ' :: (token.characters ++ rest)) :
    cursor.Faces token rest := by
  have front := Cursor.tokenStart_rest
    (Token.triviaLength_append spelled bounded) ahead
  refine ⟨front, ?_, ?_⟩
  · rw [Cursor.punctuator?, front, Token.atFront?_append spelled bounded]
  · rw [Cursor.word?, front, Token.wordAtFront?_append spelled bounded,
      Option.map_map]
    cases token.word? with
    | none => rfl
    | some name => exact congrArg some String.ofList_toList

/-- The tokens that come next at a cursor, with the text behind them.  The space
in front of the first one may have been passed. -/
def Cursor.Shows (cursor : Cursor) (tokens : List Token) (rest : List Char) :
    Prop :=
  cursor.rest = spaced tokens rest ∨ ' ' :: cursor.rest = spaced tokens rest

theorem Cursor.Shows.faces {cursor : Cursor} {token : Token}
    {tokens : List Token} {rest : List Char}
    (shows : cursor.Shows (token :: tokens) rest)
    (spelled : token.isSpelled = true) (bounded : IsBounded rest) :
    cursor.Faces token (spaced tokens rest) := by
  refine Cursor.faces_of_isSpelled spelled (bounded.ofTokens tokens) ?_
  rcases shows with standing | standing
  · exact Or.inr standing
  · injection standing with _ passed
    exact Or.inl passed

theorem Cursor.shows_append {cursor : Cursor} {first second : List Token}
    {rest : List Char} :
    cursor.Shows (first ++ second) rest ↔
      cursor.Shows first (spaced second rest) := by
  unfold Cursor.Shows
  rw [spaced_append]

/-! ## Operators -/

theorem BinaryOperator.isSpelled_token (operator : BinaryOperator) :
    operator.token.isSpelled = true := by
  cases operator <;> rfl

theorem Cursor.Faces.binaryOperator? {cursor : Cursor}
    {operator : BinaryOperator} {rest : List Char}
    (faces : cursor.Faces operator.token rest) (bounded : IsBounded rest) :
    cursor.binaryOperator? =
      some (operator,
        cursor.tokenStart.advance operator.token.characters.length) := by
  simp only [Cursor.binaryOperator?]
  rw [faces.front]
  cases bounded <;> cases operator <;> rfl

theorem UnaryOperator.coreToken?_cases {operator : UnaryOperator}
    (core : operator.coreToken?.isSome = true) :
    operator = .not ∨ operator = .minus := by
  cases operator with
  | not => exact Or.inl rfl
  | minus => exact Or.inr rfl
  | _ => cases core

/-! ## The first token -/

/-- Whether an expression of the core that no operator precedes can start with
a token. -/
def Token.startsBase : Token → Bool
  | .word name =>
      isName name || name == "this" || name == "true" || name == "false"
  | .number text => isInteger text
  | .punctuator mark => mark == .openBracket || mark == .openParen

/-- Whether an expression of the core can start with a token. -/
def Token.opens (token : Token) : Bool :=
  token.startsBase || token == .punctuator .not || token == .punctuator .minus

theorem Token.opens_of_startsBase {token : Token}
    (starts : token.startsBase = true) : token.opens = true := by
  rw [Token.opens, starts]
  rfl

theorem isWord_of_isName {word : String} (name : isName word = true) :
    isWord word = true := by
  simp only [isName, Bool.and_eq_true] at name
  exact name.1.1.1

theorem Token.isSpelled_of_startsBase {token : Token}
    (starts : token.startsBase = true) : token.isSpelled = true := by
  cases token with
  | word name =>
      simp only [Token.startsBase, Bool.or_eq_true, beq_iff_eq] at starts
      rcases starts with ((named | rfl) | rfl) | rfl
      · exact isWord_of_isName named
      · rfl
      · rfl
      · rfl
  | number text => exact starts
  | punctuator mark => rfl

theorem Token.isSpelled_of_opens {token : Token} (opens : token.opens = true) :
    token.isSpelled = true := by
  simp only [Token.opens, Bool.or_eq_true, beq_iff_eq] at opens
  rcases opens with (starts | rfl) | rfl
  · exact Token.isSpelled_of_startsBase starts
  · rfl
  · rfl

namespace Expression

theorem exists_startsBase : ∀ {source : Expression}, source.isCore = true →
    source.isBase = true →
      ∃ token others, source.tokens = token :: others ∧
        token.startsBase = true
  | .identifier named, core, _ => by
      simp only [isCore, Bool.and_eq_true] at core
      exact ⟨_, _, rfl, by rw [Token.startsBase, core.2]; rfl⟩
  | .receiver _, _, _ => ⟨_, _, rfl, rfl⟩
  | .boolean truth _, _, _ => ⟨_, _, rfl, by cases truth <;> rfl⟩
  | .number text _, core, _ => ⟨_, _, rfl, core⟩
  | .array _ _, _, _ => ⟨_, _, rfl, rfl⟩
  | .parenthesized _ _, _, _ => ⟨_, _, rfl, rfl⟩
  | .member base property _ _, core, _ => by
      simp only [isCore, Bool.and_eq_true] at core
      obtain ⟨token, others, same, starts⟩ := exists_startsBase core.2 core.1.2
      exact ⟨token, _, by rw [tokens, same]; rfl, starts⟩
  | .index base subscript _, core, _ => by
      simp only [isCore, Bool.and_eq_true] at core
      obtain ⟨token, others, same, starts⟩ :=
        exists_startsBase core.1.2 core.1.1
      exact ⟨token, _, by rw [tokens, same]; rfl, starts⟩
  | .call callee arguments _ _, core, _ => by
      simp only [isCore, Bool.and_eq_true] at core
      obtain ⟨token, others, same, starts⟩ :=
        exists_startsBase core.1.2 core.1.1.2
      exact ⟨token, _, by rw [tokens, same]; rfl, starts⟩

theorem exists_opens : ∀ {source : Expression}, source.isCore = true →
    ∃ token others, source.tokens = token :: others ∧ token.opens = true
  | .unary operator operand _, core => by
      simp only [isCore, Bool.and_eq_true] at core
      rcases UnaryOperator.coreToken?_cases core.1.1 with rfl | rfl
      · exact ⟨_, _, rfl, rfl⟩
      · exact ⟨_, _, rfl, rfl⟩
  | .binary operator left right _, core => by
      simp only [isCore, Bool.and_eq_true] at core
      obtain ⟨token, others, same, opens⟩ := exists_opens core.1.2
      exact ⟨token, _, by rw [tokens, same]; rfl, opens⟩
  | .identifier _, core | .receiver _, core | .boolean _ _, core
  | .number _ _, core | .array _ _, core | .parenthesized _ _, core
  | .member _ _ _ _, core | .index _ _ _, core
  | .call _ _ _ _, core => opensBase core rfl
where
  opensBase {source : Expression} (core : source.isCore = true)
      (base : source.isBase = true) :
      ∃ token others, source.tokens = token :: others ∧ token.opens = true := by
    obtain ⟨token, others, same, starts⟩ := exists_startsBase core base
    exact ⟨token, others, same, Token.opens_of_startsBase starts⟩

end Expression

theorem Cursor.Shows.exists_opens {cursor : Cursor} {source : Expression}
    {rest : List Char} (shows : cursor.Shows source.tokens rest)
    (core : source.isCore = true) (bounded : IsBounded rest) :
    ∃ token behind, cursor.Faces token behind ∧ token.opens = true := by
  obtain ⟨token, others, same, opens⟩ := Expression.exists_opens core
  rw [same] at shows
  exact ⟨token, _, shows.faces (Token.isSpelled_of_opens opens) bounded, opens⟩

theorem Cursor.Shows.exists_startsBase {cursor : Cursor} {source : Expression}
    {rest : List Char} (shows : cursor.Shows source.tokens rest)
    (core : source.isCore = true) (isBase : source.isBase = true)
    (bounded : IsBounded rest) :
    ∃ token behind, cursor.Faces token behind ∧ token.startsBase = true := by
  obtain ⟨token, others, same, starts⟩ :=
    Expression.exists_startsBase core isBase
  rw [same] at shows
  exact ⟨token, _, shows.faces (Token.isSpelled_of_startsBase starts) bounded,
    starts⟩

/-! ## What follows an expression -/

/-- A text that ends an expression for good. -/
inductive Closes : List Char → Prop
  | ended : Closes []
  | terminated (rest : List Char) : Closes (';' :: rest)
  | separated (rest : List Char) : Closes (' ' :: ';' :: rest)
  | parenthesis {rest : List Char} :
      IsBounded rest → Closes (spaced [.punctuator .closeParen] rest)
  | bracket {rest : List Char} :
      IsBounded rest → Closes (spaced [.punctuator .closeBracket] rest)

/-- A text that ends a chain of operators of at least the given level. -/
inductive Follows (least : Nat) : List Char → Prop
  | closed {rest : List Char} : Closes rest → Follows least rest
  | comma {rest : List Char} :
      IsBounded rest → Follows least (spaced [.punctuator .comma] rest)
  | operator {operator : BinaryOperator} {rest : List Char} :
      operator ≠ .power → operator.level < least → IsBounded rest →
        Follows least (spaced [operator.token] rest)

theorem Closes.isBounded {rest : List Char} (closes : Closes rest) :
    IsBounded rest := by
  cases closes with
  | ended => exact .ended
  | terminated rest => exact .terminated rest
  | separated rest => exact .spaced _
  | parenthesis _ => exact .spaced _
  | bracket _ => exact .spaced _

namespace Follows

variable {least : Nat} {rest : List Char} {cursor : Cursor}

theorem isBounded (follows : Follows least rest) : IsBounded rest := by
  cases follows with
  | closed closes => exact closes.isBounded
  | comma _ => exact .spaced _
  | operator _ _ _ => exact .spaced _

theorem mono {more : Nat} (follows : Follows least rest)
    (below : least ≤ more) : Follows more rest := by
  cases follows with
  | closed closes => exact .closed closes
  | comma bounded => exact .comma bounded
  | operator other lower bounded =>
      exact .operator other (Nat.lt_of_lt_of_le lower below) bounded

end Follows

/-- Whether a punctuator ends a chain of operators, whatever their levels
are. -/
def Punctuator.separates (mark : Punctuator) : Bool :=
  mark == .semicolon || mark == .closeParen || mark == .closeBracket ||
    mark == .comma

/-- Whether a token can come after an expression. -/
def Token.follows : Token → Bool
  | .word name => name == "in" || name == "instanceof"
  | .number _ => false
  | .punctuator mark =>
      mark.separates || (mark != .power &&
        Punctuator.binaryOperators.any fun entry => entry.1 = mark)

theorem BinaryOperator.follows_token {operator : BinaryOperator}
    (other : operator ≠ .power) : operator.token.follows = true := by
  cases operator with
  | power => exact (other rfl).elim
  | _ => rfl

/-- Nothing comes next at a cursor. -/
structure Cursor.FacesEnd (cursor : Cursor) : Prop where
  front : cursor.tokenStart.rest = []
  punctuator : cursor.punctuator? = none
  word : cursor.word? = none

theorem Cursor.facesEnd {cursor : Cursor} (ended : cursor.rest = []) :
    cursor.FacesEnd := by
  have front : cursor.tokenStart.rest = [] :=
    Cursor.tokenStart_rest rfl (Or.inl ended)
  refine ⟨front, ?_, ?_⟩
  · rw [Cursor.punctuator?, front]
    rfl
  · rw [Cursor.word?, front]
    rfl

theorem Cursor.faces_semicolon {cursor : Cursor} {rest : List Char}
    (ahead : cursor.rest = ';' :: rest ∨ cursor.rest = ' ' :: ';' :: rest) :
    cursor.Faces (.punctuator .semicolon) rest := by
  have front : cursor.tokenStart.rest = ';' :: rest :=
    Cursor.tokenStart_rest rfl ahead
  refine ⟨front, ?_, ?_⟩
  · rw [Cursor.punctuator?, front]
    rfl
  · rw [Cursor.word?, front]
    rfl

theorem Closes.faces {cursor : Cursor} {rest : List Char}
    (closes : Closes rest) (standing : cursor.rest = rest) :
    cursor.FacesEnd ∨ ∃ mark behind, cursor.Faces (.punctuator mark) behind ∧
      mark.separates = true ∧ mark ≠ .comma := by
  cases closes with
  | ended => exact Or.inl (Cursor.facesEnd standing)
  | terminated rest =>
      exact Or.inr ⟨_, _, Cursor.faces_semicolon (Or.inl standing), rfl, nofun⟩
  | separated rest =>
      exact Or.inr ⟨_, _, Cursor.faces_semicolon (Or.inr standing), rfl, nofun⟩
  | parenthesis bounded =>
      have shows : cursor.Shows [.punctuator .closeParen] _ := Or.inl standing
      exact Or.inr ⟨_, _, shows.faces rfl bounded, rfl, nofun⟩
  | bracket bounded =>
      have shows : cursor.Shows [.punctuator .closeBracket] _ := Or.inl standing
      exact Or.inr ⟨_, _, shows.faces rfl bounded, rfl, nofun⟩

theorem Closes.sees_comma {cursor : Cursor} {rest : List Char}
    (closes : Closes rest) (standing : cursor.rest = rest) :
    cursor.sees .comma = false := by
  rcases closes.faces standing with ended | ⟨mark, behind, faces, -, other⟩
  · rw [Cursor.sees, ended.punctuator]
    rfl
  · rw [faces.sees, beq_eq_false_iff_ne]
    intro same
    injection same with found
    exact other found

theorem Token.follows_of_separates {mark : Punctuator}
    (separates : mark.separates = true) :
    (Token.punctuator mark).follows = true := by
  rw [Token.follows, separates, Bool.true_or]

theorem Cursor.Faces.binaryOperator?_eq_none {cursor : Cursor}
    {mark : Punctuator} {rest : List Char}
    (faces : cursor.Faces (.punctuator mark) rest)
    (separates : mark.separates = true) : cursor.binaryOperator? = none := by
  simp only [Punctuator.separates, Bool.or_eq_true, beq_iff_eq] at separates
  simp only [Cursor.binaryOperator?]
  rw [faces.front]
  rcases separates with ((rfl | rfl) | rfl) | rfl
  all_goals rfl

namespace Follows

variable {least : Nat} {rest : List Char} {cursor : Cursor}

/-- What comes next after an expression. -/
theorem faces (follows : Follows least rest) (standing : cursor.rest = rest) :
    cursor.FacesEnd ∨ ∃ token behind,
      cursor.Faces token behind ∧ token.follows = true := by
  cases follows with
  | closed closes =>
      refine (closes.faces standing).imp_right ?_
      rintro ⟨mark, behind, faces, separates, -⟩
      exact ⟨_, behind, faces, Token.follows_of_separates separates⟩
  | comma bounded =>
      have shows : cursor.Shows [.punctuator .comma] _ := Or.inl standing
      exact Or.inr ⟨_, _, shows.faces rfl bounded, rfl⟩
  | @operator found rest other lower bounded =>
      have shows : cursor.Shows [found.token] _ := Or.inl standing
      exact Or.inr ⟨_, _, shows.faces found.isSpelled_token bounded,
        BinaryOperator.follows_token other⟩

theorem sees_eq_false (follows : Follows least rest)
    (standing : cursor.rest = rest) (mark : Punctuator)
    (other : (Token.punctuator mark).follows = false := by rfl) :
    cursor.sees mark = false := by
  rcases follows.faces standing with ended | ⟨token, behind, faces, comes⟩
  · rw [Cursor.sees, ended.punctuator]
    rfl
  · exact faces.sees_eq_false comes mark other

theorem seesWord_eq_false (follows : Follows least rest)
    (standing : cursor.rest = rest) (word : String)
    (other : (Token.word word).follows = false := by rfl) :
    cursor.seesWord word = false := by
  rcases follows.faces standing with ended | ⟨token, behind, faces, comes⟩
  · rw [Cursor.seesWord, ended.word]
    rfl
  · exact faces.seesWord_eq_false comes word other

/-- No template follows. -/
theorem tokenCharacter?_ne (follows : Follows least rest)
    (standing : cursor.rest = rest) :
    cursor.tokenCharacter? ≠ some '\x60' := by
  unfold Cursor.tokenCharacter?
  rcases follows.faces standing with ended | ⟨token, behind, faces, comes⟩
  · rw [ended.front]
    exact nofun
  · rw [faces.front]
    cases token with
    | number text => cases comes
    | word name =>
        simp only [Token.follows, Bool.or_eq_true, beq_iff_eq] at comes
        rcases comes with rfl | rfl
        · exact nofun
        · exact nofun
    | punctuator mark => cases mark <;> exact nofun

theorem endsBefore (follows : Follows least rest)
    (standing : cursor.rest = rest) : cursor.EndsBefore least := by
  intro operator after found
  cases follows with
  | closed closes =>
      rcases closes.faces standing with ended | ⟨mark, behind, faces, separates, -⟩
      · simp only [Cursor.binaryOperator?, ended.front] at found
        cases found
      · rw [faces.binaryOperator?_eq_none separates] at found
        cases found
  | comma bounded =>
      have shows : cursor.Shows [.punctuator .comma] _ := Or.inl standing
      rw [(shows.faces rfl bounded).binaryOperator?_eq_none rfl] at found
      cases found
  | @operator next behind other lower bounded =>
      have shows : cursor.Shows [next.token] _ := Or.inl standing
      have faces := shows.faces next.isSpelled_token bounded
      rw [faces.binaryOperator? bounded] at found
      cases found
      exact lower

end Follows

end VelocityScript.Script
