import VelocityScript.Proofs.Script.Grouping
import VelocityScript.Proofs.Script.Relocation
import VelocityScript.Script.Literal

/-!
# Rendered expressions

The core of the expressions consists of names, literals, arrays, parentheses,
operators, accesses and calls.  An expression of the core is rendered as its
tokens with single spaces between them.
-/

namespace VelocityScript.Script

open VelocityScript.Script.Parser

/-! ## Tokens -/

/-- A token of a rendered expression. -/
inductive Token where
  | word (name : String)
  | number (text : String)
  | punctuator (mark : Punctuator)
  deriving DecidableEq

/-- Whether a text is a word as a whole. -/
def isWord (name : String) : Bool :=
  wordAtFront? name.toList == some name.toList

/-- Whether a text is a decimal integer.  Separators may stand between its
digits. -/
def isInteger (text : String) : Bool :=
  match text.toList with
  | first :: others => first.isDigit && others.all isDigitOrSeparator
  | [] => false

namespace Token

def characters : Token → List Char
  | .word name => name.toList
  | .number text => text.toList
  | .punctuator mark => mark.characters

def text (token : Token) : String :=
  String.ofList token.characters

/-- Whether a token is spelled as its kind says. -/
def isSpelled : Token → Bool
  | .word name => isWord name
  | .number text => isInteger text
  | .punctuator _ => true

def punctuator? : Token → Option Punctuator
  | .punctuator mark => some mark
  | _ => none

def word? : Token → Option String
  | .word name => some name
  | _ => none

theorem eq_punctuator {token : Token} {mark : Punctuator}
    (named : token.punctuator? = some mark) : token = .punctuator mark := by
  cases token with
  | punctuator found =>
      cases named
      rfl
  | word name => cases named
  | number text => cases named

theorem eq_word {token : Token} {name : String}
    (named : token.word? = some name) : token = .word name := by
  cases token with
  | word found =>
      cases named
      rfl
  | number text => cases named
  | punctuator mark => cases named

end Token

/-- The token of an operator.  Those that are words stand in no table of
punctuators. -/
def BinaryOperator.token (operator : BinaryOperator) : Token :=
  match Punctuator.binaryOperators.find? fun entry => entry.2 = operator with
  | some (mark, _) => .punctuator mark
  | none => .word (if operator = .instanceOf then "instanceof" else "in")

/-! ## The core -/

/-- Whether a word is read as a name wherever an operand can start. -/
def isName (word : String) : Bool :=
  isWord word && !isReserved word && word != "async" && word != "await"

/-- The tokens of the operators of the core that stand in front of their
operand. -/
def UnaryOperator.coreToken? : UnaryOperator → Option Token
  | .not => some (.punctuator .not)
  | .minus => some (.punctuator .minus)
  | _ => none

/-- Whether accesses and calls can follow an expression without parentheses
around it. -/
def Expression.isBase : Expression → Bool
  | .unary _ _ _ => false
  | .binary _ _ _ _ => false
  | _ => true

mutual

/-- Whether an expression belongs to the core, and its operators have operands
that need no parentheses. -/
def Expression.isCore : Expression → Bool
  | .identifier named => named.binding == .unresolved && isName named.name
  | .receiver _ => true
  | .boolean _ _ => true
  | .number text _ => isInteger text
  | .array elements _ => areCore elements
  | .parenthesized inner _ => inner.isCore
  | .unary operator operand _ =>
      operator.coreToken?.isSome && operand.bindsFrom prefixLevel &&
        operand.isCore
  | .binary operator left right _ =>
      operator != .power && left.bindsFrom operator.level &&
        right.bindsFrom operator.rightLevel && left.isCore && right.isCore
  | .member object property isPrivate _ =>
      property.binding == .unresolved && isWord property.name && !isPrivate &&
        object.isBase && object.isCore
  | .index object subscript _ =>
      object.isBase && object.isCore && subscript.isCore
  | .call callee arguments returns _ =>
      returns == .unknown && callee.isBase && callee.isCore && areCore arguments
  | _ => false

def areCore : List Expression → Bool
  | [] => true
  | source :: others => source.isCore && areCore others

end

theorem areCore_iff {sources : List Expression} :
    areCore sources = true ↔ ∀ source ∈ sources, source.isCore = true := by
  induction sources with
  | nil => simp [areCore]
  | cons source others inductionHypothesis =>
      rw [areCore, Bool.and_eq_true, inductionHypothesis, List.forall_mem_cons]

mutual

/-- The tokens of an expression of the core. -/
def Expression.tokens : Expression → List Token
  | .identifier named => [.word named.name]
  | .receiver _ => [.word "this"]
  | .boolean truth _ => [.word (if truth then "true" else "false")]
  | .number text _ => [.number text]
  | .array elements _ =>
      .punctuator .openBracket ::
        (separatedTokens elements ++ [.punctuator .closeBracket])
  | .parenthesized inner _ =>
      .punctuator .openParen :: (inner.tokens ++ [.punctuator .closeParen])
  | .unary operator operand _ => operator.coreToken?.toList ++ operand.tokens
  | .binary operator left right _ =>
      left.tokens ++ operator.token :: right.tokens
  | .member object property _ _ =>
      object.tokens ++ [.punctuator .dot, .word property.name]
  | .index object subscript _ =>
      object.tokens ++ .punctuator .openBracket ::
        (subscript.tokens ++ [.punctuator .closeBracket])
  | .call callee arguments _ _ =>
      callee.tokens ++ .punctuator .openParen ::
        (separatedTokens arguments ++ [.punctuator .closeParen])
  | _ => []

/-- The tokens of some expressions, with commas between them. -/
def separatedTokens : List Expression → List Token
  | [] => []
  | source :: others => source.tokens ++ precededTokens others

/-- The tokens of some expressions, with a comma in front of each of them. -/
def precededTokens : List Expression → List Token
  | [] => []
  | source :: others =>
      .punctuator .comma :: (source.tokens ++ precededTokens others)

end

theorem length_le_precededTokens {source : Expression}
    {sources : List Expression} (member : source ∈ sources) :
    source.tokens.length ≤ (precededTokens sources).length := by
  induction sources with
  | nil => cases member
  | cons first others inductionHypothesis =>
      rw [precededTokens, List.length_cons, List.length_append]
      rcases List.mem_cons.mp member with rfl | later
      · omega
      · have shorter := inductionHypothesis later
        omega

theorem length_le_separatedTokens {source : Expression}
    {sources : List Expression} (member : source ∈ sources) :
    source.tokens.length ≤ (separatedTokens sources).length := by
  cases sources with
  | nil => cases member
  | cons first others =>
      rw [separatedTokens, List.length_append]
      rcases List.mem_cons.mp member with rfl | later
      · omega
      · have shorter := length_le_precededTokens later
        omega

/-- An expression as its tokens with single spaces between them. -/
def Expression.rendering (source : Expression) : String :=
  " ".intercalate (source.tokens.map Token.text)

/-- An expression up to where its parts stand. -/
def Expression.withoutSpans (source : Expression) : Expression :=
  source.relocate fun _ => ⟨0, 0⟩

/-! ## Agreement -/

/-- An expression that differs from another one in its spans only. -/
def Expression.Agrees (source result : Expression) : Prop :=
  result.withoutSpans = source.withoutSpans

/-- Expressions that differ from others in their spans only. -/
def AgreeAll (sources results : List Expression) : Prop :=
  relocateExpressions (fun _ => ⟨0, 0⟩) results =
    relocateExpressions (fun _ => ⟨0, 0⟩) sources

namespace Expression.Agrees

variable {base result : Expression} {span place : Span}

theorem parenthesized (agrees : base.Agrees result) :
    (Expression.parenthesized base span).Agrees (.parenthesized result place) :=
  congrArg (Expression.parenthesized · ⟨0, 0⟩) agrees

theorem unary {operator : UnaryOperator} (agrees : base.Agrees result) :
    (Expression.unary operator base span).Agrees
      (.unary operator result place) :=
  congrArg (Expression.unary operator · ⟨0, 0⟩) agrees

theorem binary {operator : BinaryOperator} {right found : Expression}
    (agrees : base.Agrees result) (rightAgrees : right.Agrees found) :
    (Expression.binary operator base right span).Agrees
      (.binary operator result found place) := by
  unfold Agrees withoutSpans at agrees rightAgrees ⊢
  rw [Expression.relocate, Expression.relocate, agrees, rightAgrees]

theorem member {property found : Identifier} (agrees : base.Agrees result)
    (named : found.name = property.name ∧ found.binding = property.binding) :
    (Expression.member base property false span).Agrees
      (.member result found false place) := by
  unfold Agrees withoutSpans at agrees ⊢
  rw [Expression.relocate, Expression.relocate, agrees, Identifier.relocate,
    Identifier.relocate, named.1, named.2]

theorem index {subscript found : Expression} (agrees : base.Agrees result)
    (subscriptAgrees : subscript.Agrees found) :
    (Expression.index base subscript span).Agrees
      (.index result found place) := by
  unfold Agrees withoutSpans at agrees subscriptAgrees ⊢
  rw [Expression.relocate, Expression.relocate, agrees, subscriptAgrees]

theorem call {sources results : List Expression} (agrees : base.Agrees result)
    (agreeAll : AgreeAll sources results) :
    (Expression.call base sources .unknown span).Agrees
      (.call result results .unknown place) := by
  unfold Agrees withoutSpans at agrees ⊢
  rw [Expression.relocate, Expression.relocate, agrees, agreeAll]

end Expression.Agrees

theorem AgreeAll.array {sources results : List Expression} {span place : Span}
    (agreeAll : AgreeAll sources results) :
    (Expression.array sources span).Agrees (.array results place) :=
  congrArg (Expression.array · ⟨0, 0⟩) agreeAll

theorem Expression.Agrees.cons {source result : Expression}
    {sources results : List Expression} (agrees : source.Agrees result)
    (agreeAll : AgreeAll sources results) :
    AgreeAll (source :: sources) (result :: results) := by
  rw [AgreeAll, relocateExpressions, relocateExpressions, agreeAll]
  exact congrArg (· :: _) agrees

/-! ## Rendered texts -/

/-- Some tokens, each after a space, in front of a text. -/
def spaced (tokens : List Token) (rest : List Char) : List Char :=
  tokens.foldr (fun token text => ' ' :: (token.characters ++ text)) rest

theorem spaced_cons (token : Token) (tokens : List Token) (rest : List Char) :
    spaced (token :: tokens) rest =
      ' ' :: (token.characters ++ spaced tokens rest) :=
  rfl

theorem spaced_append (first second : List Token) (rest : List Char) :
    spaced (first ++ second) rest = spaced first (spaced second rest) :=
  List.foldr_append

theorem length_le_spaced (tokens : List Token) (rest : List Char) :
    tokens.length + rest.length ≤ (spaced tokens rest).length := by
  induction tokens with
  | nil => exact Nat.le_of_eq (Nat.zero_add _)
  | cons token others inductionHypothesis =>
      rw [spaced_cons, List.length_cons, List.length_cons, List.length_append]
      omega

theorem length_lt_spaced (token : Token) (tokens : List Token)
    (rest : List Char) : rest.length < (spaced (token :: tokens) rest).length := by
  have length := length_le_spaced (token :: tokens) rest
  rw [List.length_cons] at length
  omega

theorem space_cons_rendering (tokens : List Token) (rest : List Char)
    (nonempty : tokens ≠ []) :
    ' ' :: ([' '].intercalate (tokens.map Token.characters) ++ rest) =
      spaced tokens rest := by
  induction tokens with
  | nil => exact (nonempty rfl).elim
  | cons token others inductionHypothesis =>
      cases others with
      | nil => simp [spaced]
      | cons next more =>
          have following := inductionHypothesis (List.cons_ne_nil next more)
          rw [spaced_cons, ← following]
          simp [List.intercalate_cons_cons]

end VelocityScript.Script
