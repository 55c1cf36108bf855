import VelocityScript.Script.Operator

/-!
# Punctuators

The next punctuator of a text is the longest one that the text starts with.
-/

namespace VelocityScript.Script

/-- A token of punctuation characters. -/
inductive Punctuator where
  | unsignedShiftAssign
  | ellipsis
  | strictEqual
  | strictNotEqual
  | powerAssign
  | shiftLeftAssign
  | shiftRightAssign
  | unsignedShift
  | andAssign
  | orAssign
  | coalesceAssign
  | arrow
  | equal
  | notEqual
  | lessOrEqual
  | greaterOrEqual
  | and
  | or
  | coalesce
  | optionalDot
  | increment
  | decrement
  | plusAssign
  | minusAssign
  | timesAssign
  | divideAssign
  | remainderAssign
  | bitAndAssign
  | bitOrAssign
  | bitXorAssign
  | power
  | shiftLeft
  | shiftRight
  | openBrace
  | closeBrace
  | openParen
  | closeParen
  | openBracket
  | closeBracket
  | semicolon
  | comma
  | less
  | greater
  | plus
  | minus
  | times
  | divide
  | percent
  | bitAnd
  | bitOr
  | bitXor
  | not
  | bitNot
  | question
  | colon
  | assign
  | dot
  | at
  | hash
  deriving DecidableEq

namespace Punctuator

def characters : Punctuator → List Char
  | .unsignedShiftAssign => ['>', '>', '>', '=']
  | .ellipsis => ['.', '.', '.']
  | .strictEqual => ['=', '=', '=']
  | .strictNotEqual => ['!', '=', '=']
  | .powerAssign => ['*', '*', '=']
  | .shiftLeftAssign => ['<', '<', '=']
  | .shiftRightAssign => ['>', '>', '=']
  | .unsignedShift => ['>', '>', '>']
  | .andAssign => ['&', '&', '=']
  | .orAssign => ['|', '|', '=']
  | .coalesceAssign => ['?', '?', '=']
  | .arrow => ['=', '>']
  | .equal => ['=', '=']
  | .notEqual => ['!', '=']
  | .lessOrEqual => ['<', '=']
  | .greaterOrEqual => ['>', '=']
  | .and => ['&', '&']
  | .or => ['|', '|']
  | .coalesce => ['?', '?']
  | .optionalDot => ['?', '.']
  | .increment => ['+', '+']
  | .decrement => ['-', '-']
  | .plusAssign => ['+', '=']
  | .minusAssign => ['-', '=']
  | .timesAssign => ['*', '=']
  | .divideAssign => ['/', '=']
  | .remainderAssign => ['%', '=']
  | .bitAndAssign => ['&', '=']
  | .bitOrAssign => ['|', '=']
  | .bitXorAssign => ['^', '=']
  | .power => ['*', '*']
  | .shiftLeft => ['<', '<']
  | .shiftRight => ['>', '>']
  | .openBrace => ['{']
  | .closeBrace => ['}']
  | .openParen => ['(']
  | .closeParen => [')']
  | .openBracket => ['[']
  | .closeBracket => [']']
  | .semicolon => [';']
  | .comma => [',']
  | .less => ['<']
  | .greater => ['>']
  | .plus => ['+']
  | .minus => ['-']
  | .times => ['*']
  | .divide => ['/']
  | .percent => ['%']
  | .bitAnd => ['&']
  | .bitOr => ['|']
  | .bitXor => ['^']
  | .not => ['!']
  | .bitNot => ['~']
  | .question => ['?']
  | .colon => [':']
  | .assign => ['=']
  | .dot => ['.']
  | .at => ['@']
  | .hash => ['#']

def text (punctuator : Punctuator) : String :=
  String.ofList punctuator.characters

/-- All punctuators, the longer ones first. -/
def all : List Punctuator :=
  [.unsignedShiftAssign, .ellipsis, .strictEqual, .strictNotEqual,
    .powerAssign, .shiftLeftAssign, .shiftRightAssign, .unsignedShift,
    .andAssign, .orAssign, .coalesceAssign, .arrow, .equal, .notEqual,
    .lessOrEqual, .greaterOrEqual, .and, .or, .coalesce, .optionalDot,
    .increment, .decrement, .plusAssign, .minusAssign, .timesAssign,
    .divideAssign, .remainderAssign, .bitAndAssign, .bitOrAssign,
    .bitXorAssign, .power, .shiftLeft, .shiftRight, .openBrace, .closeBrace,
    .openParen, .closeParen, .openBracket, .closeBracket, .semicolon, .comma,
    .less, .greater, .plus, .minus, .times, .divide, .percent, .bitAnd,
    .bitOr, .bitXor, .not, .bitNot, .question, .colon, .assign, .dot, .at,
    .hash]

def atFront? (rest : List Char) : Option Punctuator :=
  all.find? fun punctuator => punctuator.characters.isPrefixOf rest

/-- The assignment that a punctuator stands for. -/
def assignment? : Punctuator → Option AssignmentOperator
  | .assign => some .assign
  | .plusAssign => some .add
  | .minusAssign => some .subtract
  | .timesAssign => some .multiply
  | .divideAssign => some .divide
  | .remainderAssign => some .remainder
  | .powerAssign => some .power
  | .andAssign => some .and
  | .orAssign => some .or
  | .coalesceAssign => some .coalesce
  | .bitAndAssign => some .bitAnd
  | .bitOrAssign => some .bitOr
  | .bitXorAssign => some .bitXor
  | .shiftLeftAssign => some .shiftLeft
  | .shiftRightAssign => some .shiftRight
  | .unsignedShiftAssign => some .unsignedShiftRight
  | _ => none

def binaryOperators : List (Punctuator × BinaryOperator) :=
  [(.coalesce, .coalesce), (.or, .or), (.and, .and), (.bitOr, .bitOr),
    (.bitXor, .bitXor), (.bitAnd, .bitAnd), (.equal, .equal),
    (.notEqual, .notEqual), (.strictEqual, .strictEqual),
    (.strictNotEqual, .strictNotEqual), (.less, .less),
    (.lessOrEqual, .lessOrEqual), (.greater, .greater),
    (.greaterOrEqual, .greaterOrEqual), (.shiftLeft, .shiftLeft),
    (.shiftRight, .shiftRight), (.unsignedShift, .unsignedShiftRight),
    (.plus, .add), (.minus, .subtract), (.times, .multiply),
    (.divide, .divide), (.percent, .remainder), (.power, .power)]

/-- The tokens that start like a binary operator and are none: the combined
assignments and the arrow. -/
def operatorLookalikes : List Punctuator :=
  [.plusAssign, .minusAssign, .timesAssign, .divideAssign, .remainderAssign,
    .powerAssign, .andAssign, .orAssign, .coalesceAssign, .bitAndAssign,
    .bitOrAssign, .bitXorAssign, .shiftLeftAssign, .shiftRightAssign,
    .unsignedShiftAssign, .arrow]

/-- Of two operators the one with the longer token. -/
def longerOperator
    (best : Option (Punctuator × BinaryOperator))
    (next : Punctuator × BinaryOperator) :
    Option (Punctuator × BinaryOperator) :=
  match best with
  | none => some next
  | some current =>
      if current.1.characters.length ≤ next.1.characters.length then
        some next
      else
        some current

/-- The binary operator at the front of a text: the longest one that the text
starts with, unless a lookalike stands there. -/
def binaryAtFront? (rest : List Char) : Option (Punctuator × BinaryOperator) :=
  if operatorLookalikes.any fun token => token.characters.isPrefixOf rest then
    none
  else
    (binaryOperators.filter fun (token, _) =>
      token.characters.isPrefixOf rest).foldl longerOperator none

def unary? : Punctuator → Option UnaryOperator
  | .not => some .not
  | .minus => some .minus
  | .plus => some .plus
  | .bitNot => some .bitNot
  | .increment => some .increment
  | .decrement => some .decrement
  | _ => none

end Punctuator

end VelocityScript.Script
