/-!
# Operators of the script language
-/

namespace VelocityScript.Script

/-- Operators between two operands. -/
inductive BinaryOperator where
  | add
  | subtract
  | multiply
  | divide
  | remainder
  | power
  | equal
  | strictEqual
  | notEqual
  | strictNotEqual
  | less
  | lessOrEqual
  | greater
  | greaterOrEqual
  | and
  | or
  | coalesce
  | bitAnd
  | bitOr
  | bitXor
  | shiftLeft
  | shiftRight
  | unsignedShiftRight
  | instanceOf
  | contained
  deriving DecidableEq

namespace BinaryOperator

def tokenName : BinaryOperator → String
  | .add => "PlusToken"
  | .subtract => "MinusToken"
  | .multiply => "AsteriskToken"
  | .divide => "SlashToken"
  | .remainder => "PercentToken"
  | .power => "AsteriskAsteriskToken"
  | .equal => "EqualsEqualsToken"
  | .strictEqual => "EqualsEqualsEqualsToken"
  | .notEqual => "ExclamationEqualsToken"
  | .strictNotEqual => "ExclamationEqualsEqualsToken"
  | .less => "LessThanToken"
  | .lessOrEqual => "LessThanEqualsToken"
  | .greater => "GreaterThanToken"
  | .greaterOrEqual => "GreaterThanEqualsToken"
  | .and => "AmpersandAmpersandToken"
  | .or => "BarBarToken"
  | .coalesce => "QuestionQuestionToken"
  | .bitAnd => "AmpersandToken"
  | .bitOr => "BarToken"
  | .bitXor => "CaretToken"
  | .shiftLeft => "LessThanLessThanToken"
  | .shiftRight => "GreaterThanGreaterThanToken"
  | .unsignedShiftRight => "GreaterThanGreaterThanGreaterThanToken"
  | .instanceOf => "InstanceOfKeyword"
  | .contained => "InKeyword"

/-- How tightly an operator binds; a higher level binds tighter. -/
def level : BinaryOperator → Nat
  | .coalesce | .or => 1
  | .and => 2
  | .bitOr => 3
  | .bitXor => 4
  | .bitAnd => 5
  | .equal | .notEqual | .strictEqual | .strictNotEqual => 6
  | .less | .lessOrEqual | .greater | .greaterOrEqual | .instanceOf | .contained => 7
  | .shiftLeft | .shiftRight | .unsignedShiftRight => 8
  | .add | .subtract => 9
  | .multiply | .divide | .remainder => 10
  | .power => 11

/-- The least level of the right operand: its own level for the operator that
groups to the right, the next one for all others. -/
def rightLevel (operator : BinaryOperator) : Nat :=
  if operator = .power then operator.level else operator.level + 1

end BinaryOperator

/-- Assignments, plain or combined with an operator. -/
inductive AssignmentOperator where
  | assign
  | add
  | subtract
  | multiply
  | divide
  | remainder
  | power
  | and
  | or
  | coalesce
  | bitAnd
  | bitOr
  | bitXor
  | shiftLeft
  | shiftRight
  | unsignedShiftRight
  deriving DecidableEq

def AssignmentOperator.tokenName : AssignmentOperator → String
  | .assign => "EqualsToken"
  | .add => "PlusEqualsToken"
  | .subtract => "MinusEqualsToken"
  | .multiply => "AsteriskEqualsToken"
  | .divide => "SlashEqualsToken"
  | .remainder => "PercentEqualsToken"
  | .power => "AsteriskAsteriskEqualsToken"
  | .and => "AmpersandAmpersandEqualsToken"
  | .or => "BarBarEqualsToken"
  | .coalesce => "QuestionQuestionEqualsToken"
  | .bitAnd => "AmpersandEqualsToken"
  | .bitOr => "BarEqualsToken"
  | .bitXor => "CaretEqualsToken"
  | .shiftLeft => "LessThanLessThanEqualsToken"
  | .shiftRight => "GreaterThanGreaterThanEqualsToken"
  | .unsignedShiftRight => "GreaterThanGreaterThanGreaterThanEqualsToken"

/-- Operators in front of an operand. -/
inductive UnaryOperator where
  | not
  | minus
  | plus
  | bitNot
  | typeOf
  | discard
  | delete
  | increment
  | decrement
  deriving DecidableEq

def UnaryOperator.tokenName : UnaryOperator → String
  | .not => "ExclamationToken"
  | .minus => "MinusToken"
  | .plus => "PlusToken"
  | .bitNot => "TildeToken"
  | .typeOf => "TypeOfKeyword"
  | .discard => "VoidKeyword"
  | .delete => "DeleteKeyword"
  | .increment => "PlusPlusToken"
  | .decrement => "MinusMinusToken"

end VelocityScript.Script
