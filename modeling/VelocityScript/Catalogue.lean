import VelocityScript.Text.Split

/-!
# The catalogue of helper libraries

Names imported from a module under the scope `@ts2vtl` stand for what the
template language provides itself.  The catalogue lists the exports of the
known modules and what their calls return.
-/

namespace VelocityScript

/-- What an export of a helper module is. -/
inductive HelperKind where
  | function
  | stringUtility
  | value
  | type
  deriving DecidableEq

/-- What a call returns, as far as the catalogue knows. -/
inductive ReturnKind where
  | unknown
  | nothing
  | never
  | value
  deriving DecidableEq

namespace Catalogue

/-- The scope of the helper libraries. -/
def scope : String := "@ts2vtl"

/-- The module of collection helpers and of the string class. -/
def collections : String := "@ts2vtl/java-types"

def resolverModule : String := "@ts2vtl/aws-appsync"

/-- The module of gateway templates. -/
def gatewayModule : String := "@ts2vtl/aws-apigateway"

/-- The helper whose call is a range literal. -/
def rangeHelper : String := "Range"

/-- The variable that holds the string class. -/
def stringClass : String := "String"

/-- The known modules and their exports. -/
def modules : List (String × List (String × HelperKind)) :=
  [(collections,
      [("Range", .function), ("add", .function), ("addAll", .function),
        ("clear", .function), ("clone", .function), ("contains", .function),
        ("containsKey", .function), ("containsValue", .function),
        ("entrySet", .function), ("get", .function),
        ("getOrDefault", .function), ("isEmpty", .function),
        ("keySet", .function), ("values", .function), ("foreach", .value),
        ("Entry", .type), ("String", .stringUtility)]),
    (resolverModule,
      [("$util", .value), ("$context", .value), ("$ctx", .value),
        ("RequestContext", .type), ("ResponseContext", .type),
        ("Error", .type), ("Util", .type)]),
    (gatewayModule,
      [("$method", .value), ("$integration", .value), ("$context", .value),
        ("$input", .value), ("$stageVariables", .value), ("$util", .value),
        ("Context", .type)])]

/-- What the helper functions return, by the number of arguments where that
matters.  The first row that fits counts. -/
def functionReturns : List (String × Option Nat × ReturnKind) :=
  [("add", some 3, .nothing), ("add", none, .value), ("clear", none, .nothing),
    ("addAll", none, .value), ("clone", none, .value),
    ("contains", none, .value), ("containsKey", none, .value),
    ("containsValue", none, .value), ("entrySet", none, .value),
    ("get", none, .value), ("getOrDefault", none, .value),
    ("isEmpty", none, .value), ("keySet", none, .value),
    ("values", none, .value), ("Range", none, .value)]

/-- What the methods of the helper values return, by the properties that lead
to them. -/
def methodReturns : List (String × String × List String × ReturnKind) :=
  [(resolverModule, "$util", ["error"], .never),
    (resolverModule, "$util", ["unauthorized"], .never),
    (resolverModule, "$util", ["appendError"], .nothing),
    (resolverModule, "$util", ["isNull"], .value),
    (resolverModule, "$util", ["isNullOrEmpty"], .value),
    (resolverModule, "$util", ["isNullOrBlank"], .value),
    (resolverModule, "$util", ["toJson"], .value),
    (resolverModule, "$util", ["autoId"], .value),
    (resolverModule, "$util", ["qr"], .value),
    (resolverModule, "$util", ["dynamodb", "toDynamoDB"], .value),
    (resolverModule, "$util", ["dynamodb", "toDynamoDBJson"], .value),
    (resolverModule, "$util", ["dynamodb", "toMapValues"], .value),
    (resolverModule, "$util", ["time", "nowISO8601"], .value),
    (resolverModule, "$util", ["time", "nowEpochSeconds"], .value),
    (resolverModule, "$util", ["time", "nowEpochMilliSeconds"], .value),
    (gatewayModule, "$util", ["escapeJavaScript"], .value),
    (gatewayModule, "$util", ["parseJson"], .value),
    (gatewayModule, "$util", ["urlEncode"], .value),
    (gatewayModule, "$util", ["urlDecode"], .value),
    (gatewayModule, "$util", ["base64Encode"], .value),
    (gatewayModule, "$util", ["base64Decode"], .value),
    (gatewayModule, "$input", ["body"], .value),
    (gatewayModule, "$input", ["json"], .value),
    (gatewayModule, "$input", ["params"], .value),
    (gatewayModule, "$input", ["path"], .value),
    (collections, "String", ["join"], .value),
    (collections, "String", ["format"], .value)]

/-- Whether a module name or a file path has the helper scope as one of its
segments. -/
def isHelperModule (name : String) : Bool :=
  (splitWhere (fun character => character == '/' || character == '\\')
    name.toList).contains scope.toList

/-- The exports of a module; none for an unknown one. -/
def exports (moduleName : String) : List (String × HelperKind) :=
  (modules.lookup moduleName).getD []

/-- The kind of an export.  An unknown name of a helper module is a value. -/
def exportKind (moduleName name : String) : HelperKind :=
  ((exports moduleName).lookup name).getD .value

/-- What a call of a helper function with `arity` arguments returns. -/
def functionReturn (name : String) (arity : Nat) : ReturnKind :=
  match functionReturns.find? fun (known, count, _) =>
      known == name && count.all (· == arity) with
  | some (_, _, returned) => returned
  | none => .unknown

/-- What a call of a method of a helper value returns. -/
def methodReturn
    (moduleName root : String) (properties : List String) : ReturnKind :=
  match methodReturns.find? fun (knownModule, knownRoot, known, _) =>
      knownModule == moduleName && knownRoot == root && known == properties with
  | some (_, _, _, returned) => returned
  | none => .unknown

end Catalogue

end VelocityScript
