import VelocityScript.Number.Double
import VelocityScript.Template.Kind
import VelocityScript.Text.Position

/-!
# Template trees

A template is built from values: literals, and references to the data that the
template is evaluated with.  A reference interpolates a path, which is a name
followed by property accesses, index accesses and method calls.
-/

namespace VelocityScript.Template

/-- The region of the source text that a node comes from, if any. -/
abbrev Origin := Option Span

/-- A name. -/
structure Identifier where
  text : String
  origin : Origin
  deriving DecidableEq

/-- Whether a text can serve as a name: a letter, then letters, digits, `_` and
`-`.  One leading `$` is allowed. -/
def isValidIdentifier (text : String) : Bool :=
  let name :=
    match text.toList with
    | '$' :: rest => rest
    | characters => characters
  match name with
  | [] => false
  | first :: others =>
      first.isAlpha &&
        others.all fun character =>
          character.isAlphanum || character == '_' || character == '-'

/-- The quotes around a string. -/
inductive Quote where
  | double
  | single
  deriving DecidableEq

def Quote.character : Quote → Char
  | .double => '"'
  | .single => '\''

/-- Operators between two expressions. -/
inductive BinaryOperator where
  | plus
  | minus
  | times
  | divide
  | remainder
  | equal
  | notEqual
  | less
  | lessOrEqual
  | greater
  | greaterOrEqual
  | and
  | or
  deriving DecidableEq

namespace BinaryOperator

def text : BinaryOperator → String
  | .plus => "+"
  | .minus => "-"
  | .times => "*"
  | .divide => "/"
  | .remainder => "%"
  | .equal => "=="
  | .notEqual => "!="
  | .less => "<"
  | .lessOrEqual => "<="
  | .greater => ">"
  | .greaterOrEqual => ">="
  | .and => "&&"
  | .or => "||"

def all : List BinaryOperator :=
  [.plus, .minus, .times, .divide, .remainder, .equal, .notEqual, .less,
    .lessOrEqual, .greater, .greaterOrEqual, .and, .or]

def ofText? (text : String) : Option BinaryOperator :=
  all.find? (·.text == text)

end BinaryOperator

/-- Operators in front of an expression. -/
inductive UnaryOperator where
  | minus
  | not
  deriving DecidableEq

namespace UnaryOperator

def text : UnaryOperator → String
  | .minus => "-"
  | .not => "!"

def ofText? (text : String) : Option UnaryOperator :=
  [UnaryOperator.minus, UnaryOperator.not].find? (·.text == text)

end UnaryOperator

mutual

/-- What a reference interpolates.  A call keeps the origin of its callee, the
access to the method, apart from its own. -/
inductive Path where
  | name (identifier : Identifier)
  | property (base : Path) (name : Identifier) (origin : Origin)
  | index (base : Path) (subscript : Value) (origin : Origin)
  | call (base : Path) (method : Identifier) (calleeOrigin : Origin)
      (arguments : List Value) (origin : Origin)

/-- A literal or a reference. -/
inductive Value where
  | reference (path : Path) (origin : Origin)
  | number (value : Double) (origin : Origin)
  | string (text : String) (quote : Quote) (origin : Origin)
  | template (head : String) (spans : List TemplateSpan) (origin : Origin)
  | boolean (value : Bool) (origin : Origin)
  | list (elements : List Value) (origin : Origin)
  | range (first last : RangeBound) (origin : Origin)
  | map (entries : List MapEntry) (origin : Origin)

/-- An interpolated value and the text after it. -/
inductive TemplateSpan where
  | mk (value : Value) (literal : String) (origin : Origin)

/-- An end of a range: a number or a reference. -/
inductive RangeBound where
  | number (value : Double) (origin : Origin)
  | reference (path : Path) (origin : Origin)

/-- One `name: value` of a map. -/
inductive MapEntry where
  | mk (name value : Value) (origin : Origin)

end

/-- An interpolated path. -/
structure Reference where
  path : Path
  origin : Origin

/-- An interpolated name. -/
structure Variable where
  name : Identifier
  origin : Origin
  deriving DecidableEq

/-- What an expression position holds.  A bare path appears only where it is
about to be extended or interpolated. -/
inductive Expression where
  | ofPath (path : Path)
  | ofValue (value : Value)
  | binary (left : Expression) (operator : BinaryOperator) (right : Expression)
      (origin : Origin)
  | unary (operator : UnaryOperator) (operand : Expression) (origin : Origin)
  | parenthesized (inner : Expression) (origin : Origin)

/-- What `#set` can assign to: a variable, or a property or an index of
something, but never the result of a call.  A place has an origin of its own
besides that of the access. -/
inductive Place where
  | named (target : Variable)
  | property (base : Path) (name : Identifier) (accessOrigin origin : Origin)
  | index (base : Path) (subscript : Value) (accessOrigin origin : Origin)

mutual

inductive Element where
  | assign (place : Place) (value : Expression) (origin : Origin)
  | branch (first : Clause) (others : List Clause) (otherwise : Option Block)
      (origin : Origin)
  | loop (item : Variable) (iterable : Value) (body : Block) (origin : Origin)
  | emit (value : Value)
  | text (text : String) (origin : Origin)
  | newLine

/-- A sequence of elements. -/
inductive Block where
  | mk (elements : List Element) (origin : Origin)

/-- A condition and the block it guards. -/
inductive Clause where
  | mk (condition : Expression) (body : Block) (origin : Origin)

end

/-- The template of one function. -/
structure File where
  name : String
  block : Block
  origin : Origin

/-- Any node of a template. -/
inductive Node where
  | ofFile (file : File)
  | ofBlock (block : Block)
  | ofElement (element : Element)
  | ofClause (clause : Clause)
  | ofExpression (expression : Expression)
  | ofSpan (span : TemplateSpan)
  | ofEntry (entry : MapEntry)

def Block.elements : Block → List Element
  | .mk elements _ => elements

/-- The origin of a block. -/
def Block.origin : Block → Origin
  | .mk _ origin => origin

/-- The variable of a name, with the name's origin. -/
def Variable.ofIdentifier (name : Identifier) : Variable :=
  ⟨name, name.origin⟩

/-- A variable as an interpolated path. -/
def Variable.reference (target : Variable) : Reference :=
  ⟨.name target.name, target.origin⟩

/-- A reference as a value. -/
def Reference.value (reference : Reference) : Value :=
  .reference reference.path reference.origin

namespace Path

def origin : Path → Origin
  | .name identifier => identifier.origin
  | .property _ _ origin => origin
  | .index _ _ origin => origin
  | .call _ _ _ _ origin => origin

/-- The path of a name and of properties after it, all with one origin. -/
def chain (first : String) (properties : List String) (origin : Origin) : Path :=
  properties.foldl
    (fun base property => .property base ⟨property, origin⟩ origin)
    (.name ⟨first, origin⟩)

end Path

def Value.origin : Value → Origin
  | .reference _ origin => origin
  | .number _ origin => origin
  | .string _ _ origin => origin
  | .template _ _ origin => origin
  | .boolean _ origin => origin
  | .list _ origin => origin
  | .range _ _ origin => origin
  | .map _ origin => origin

/-- A string that stands for `text` itself.  Double quotes are used unless the
text has a double quote and no single one; a double quote between double
quotes is written twice. -/
def Value.quoted (text : String) (origin : Origin) : Value :=
  if text.toList.contains '"' && !text.toList.contains '\'' then
    .string text .single origin
  else
    .string
      (String.ofList
        (text.toList.flatMap fun character =>
          if character = '"' then ['"', '"'] else [character]))
      .double origin

namespace Expression

def origin : Expression → Origin
  | .ofPath path => path.origin
  | .ofValue value => value.origin
  | .binary _ _ _ origin => origin
  | .unary _ _ origin => origin
  | .parenthesized _ origin => origin

/-- The reference that interpolates an expression: a bare path gets the origin
of the path, and a reference stays itself. -/
def reference? : Expression → Option Reference
  | .ofPath path => some ⟨path, path.origin⟩
  | .ofValue (.reference path origin) => some ⟨path, origin⟩
  | _ => none

/-- A bare path interpolated, and any other expression as it is. -/
def interpolated : Expression → Expression
  | .ofPath path => .ofValue (.reference path path.origin)
  | expression => expression

/-- The value of an expression: literals and references are values, and a bare
path is interpolated. -/
def value? : Expression → Option Value
  | .ofPath path => some (.reference path path.origin)
  | .ofValue value => some value
  | _ => none

/-- The path that an access or a call can extend. -/
def path? : Expression → Option Path
  | .ofPath path => some path
  | _ => none

end Expression

/-- The place of a reference, unless it is the result of a call. -/
def Reference.place? : Reference → Option Place
  | ⟨.name identifier, origin⟩ => some (.named ⟨identifier, origin⟩)
  | ⟨.property base name accessOrigin, origin⟩ =>
      some (.property base name accessOrigin origin)
  | ⟨.index base subscript accessOrigin, origin⟩ =>
      some (.index base subscript accessOrigin origin)
  | ⟨.call _ _ _ _ _, _⟩ => none

def Place.reference : Place → Reference
  | .named target => target.reference
  | .property base name accessOrigin origin =>
      ⟨.property base name accessOrigin, origin⟩
  | .index base subscript accessOrigin origin =>
      ⟨.index base subscript accessOrigin, origin⟩

/-- Reading a place gives the reference it was made from. -/
theorem Reference.place?_eq_some_iff {reference : Reference} {place : Place} :
    reference.place? = some place ↔ place.reference = reference := by
  obtain ⟨path, origin⟩ := reference
  constructor
  · intro made
    cases path <;> simp [Reference.place?] at made <;> subst made <;> rfl
  · intro read
    cases place <;> cases read <;> rfl

end VelocityScript.Template
