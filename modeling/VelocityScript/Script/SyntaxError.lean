import VelocityScript.Diagnostic

/-!
# Syntax errors
-/

namespace VelocityScript.Script

/-- Why a text cannot be parsed. -/
inductive SyntaxProblem where
  | expected (token : String)
  | expectedIdentifier
  | expectedString
  | expectedExponent
  | expectedHexDigits (count : Nat)
  | expectedBracedHexDigits
  | expectedPatternColon
  | expectedPropertyColon
  | reservedWord (word : String)
  | unclosed (bracket : Char)
  | unterminatedString
  | unterminatedTemplate
  | unterminatedEscape
  | unterminatedType
  | unterminatedRegularExpression
  | unexpectedEnd
  | unexpectedCharacter (character : Char)
  | unexpectedToken
  | identifierAfterNumber
  | hexOverflow (digits : String)
  | invalidCodePoint (code : Nat)
  | tooDeep
  deriving DecidableEq

/-- The hexadecimal digits of a code point, in upper case. -/
def upperHex (code : Nat) : String :=
  String.ofList ((Nat.toDigits 16 code).map Char.toUpper)

/-- The wording of a problem. -/
def SyntaxProblem.message : SyntaxProblem → String
  | .expected token => "Expected '" ++ token ++ "'"
  | .expectedIdentifier => "Expected an identifier"
  | .expectedString => "Expected a string"
  | .expectedExponent => "Expected exponent digits"
  | .expectedHexDigits count =>
      "Expected " ++ toString count ++ " hex digits in escape sequence"
  | .expectedBracedHexDigits => "Expected hex digits in \\u\x7b...\x7d"
  | .expectedPatternColon => "Expected ':' in the binding pattern"
  | .expectedPropertyColon => "Expected ':' after the property name"
  | .reservedWord word => "'" ++ word ++ "' is a reserved word"
  | .unclosed bracket => "Unclosed '" ++ String.singleton bracket ++ "'"
  | .unterminatedString => "Unterminated string"
  | .unterminatedTemplate => "Unterminated template literal"
  | .unterminatedEscape => "Unterminated escape sequence"
  | .unterminatedType => "Unterminated type annotation"
  | .unterminatedRegularExpression => "Unterminated regular expression"
  | .unexpectedEnd => "Unexpected end of input"
  | .unexpectedCharacter character =>
      "Unexpected character '" ++ String.singleton character ++ "'"
  | .unexpectedToken => "Unexpected character"
  | .identifierAfterNumber =>
      "An identifier cannot immediately follow a numeric literal"
  | .hexOverflow digits => "Invalid hex in \\u escape: " ++ digits
  | .invalidCodePoint code => "Invalid unicode code point: " ++ upperHex code
  | .tooDeep => "Nesting too deep"

/-- A problem and the region it concerns. -/
structure SyntaxError where
  problem : SyntaxProblem
  span : Span
  deriving DecidableEq

def SyntaxError.diagnostic
    (source : SourceText) (error : SyntaxError) : Diagnostic :=
  { code := .syntaxError
    message := error.problem.message
    location := some (source.location error.span) }

end VelocityScript.Script
