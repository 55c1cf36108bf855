import VelocityScript.Script.Literal
import VelocityScript.Script.Skipping

/-!
# Nested constructs

Expressions, patterns and statements nest in each other.  A rule of the
grammar takes the parsers of what is nested in it as an argument, so that no
rule is recursive by itself.
-/

namespace VelocityScript.Script

/-- The parsers of the constructs that can stand inside others. -/
structure Nested where
  assignment : Parser Expression
  binary : Nat → Parser Expression
  unary : Parser Expression
  bindingName : Parser BindingName
  statement : Parser Statement

/-- Parsers for a depth at which nothing may be nested any more. -/
def Nested.exhausted : Nested where
  assignment := Parser.fail .tooDeep
  binary _ := Parser.fail .tooDeep
  unary := Parser.fail .tooDeep
  bindingName := Parser.fail .tooDeep
  statement := Parser.fail .tooDeep

namespace Parser

/-- Runs a parser; where it fails, the cursor stays and there is no result. -/
def attempt {Result : Type} (parser : Parser Result) :
    Parser (Option Result) := fun cursor =>
  match parser cursor with
  | .ok (result, next) => .ok (some result, next)
  | .error _ => .ok (none, cursor)

/-- Reads items until the closing punctuator, with commas between them.  A
comma without an item before it is a hole, given by its offset. -/
def commaSeparatedOrHoles {Result : Type}
    (closing : Punctuator) (hole : Nat → Parser Result)
    (item : Parser Result) : Parser (List Result) :=
  repeating [] fun items => do
    let start ← tokenOffset
    if ← eat closing then
      return .finished items
    else if ← eat .comma then
      return .again (items ++ [← hole start])
    else
      let items := items ++ [← item]
      if ← eat .comma then
        return .again items
      else
        expect closing
        return .finished items

end Parser

end VelocityScript.Script
