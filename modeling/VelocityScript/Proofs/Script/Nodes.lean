import VelocityScript.Proofs.Script.Safety

/-!
# The nodes of a script

The parts of a script that have a span, seen as nodes of one tree.  A node is
exact in a text if its span is not empty and lies between characters of the
text, if the spans of the nodes below it lie in it one after the other, and if
the text under it is the word that it keeps.
-/

namespace VelocityScript.Script

open Cursor (Moves)

/-- A part of a script that has a span. -/
inductive Node where
  | item (item : Item)
  | function (declared : FunctionDeclaration)
  | parameter (parameter : Parameter)
  | block (body : Block)
  | statement (statement : Statement)
  | declaration (declared : Declaration)
  | pattern (pattern : BindingName)
  | identifier (named : Identifier)
  | expression (expression : Expression)
  | propertyName (name : PropertyName)
  | member (member : ObjectMember)

def ObjectMember.span : ObjectMember → Span
  | .shorthand named => named.span
  | .property _ _ span => span
  | .other _ span => span

def Item.span : Item → Span
  | .imports declared => declared.span
  | .function declared => declared.span
  | .typeDeclaration span => span
  | .statement content => content.span

def TemplatePart.expression : TemplatePart → Expression
  | .mk interpolated _ => interpolated

def BindingElement.name? : BindingElement → Option BindingName
  | .hole => none
  | .bound name => some name

namespace Node

def span : Node → Span
  | .item source => source.span
  | .function declared => declared.span
  | .parameter declared => declared.span
  | .block body => body.span
  | .statement source => source.span
  | .declaration declared => declared.span
  | .pattern bound => bound.span
  | .identifier named => named.span
  | .expression source => source.span
  | .propertyName name => name.span
  | .member source => source.span

/-- The expression or the declaration in front of `of`. -/
def ofHeader : LoopHeader → Node
  | .declaration declared => .declaration declared
  | .expression assigned => .expression assigned

def ofParts (parts : List TemplatePart) : List Node :=
  parts.map fun part => .expression part.expression

/-- The elements of an array pattern that bind something. -/
def ofElements (elements : List BindingElement) : List Node :=
  (elements.filterMap BindingElement.name?).map .pattern

end Node

/-- The nodes right below an expression, in source order. -/
def Expression.children : Expression → List Node
  | .identifier named => [.identifier named]
  | .receiver _ => []
  | .number _ _ => []
  | .string _ _ => []
  | .boolean _ _ => []
  | .template _ parts _ => Node.ofParts parts
  | .array elements _ => elements.map .expression
  | .object members _ => members.map .member
  | .parenthesized inner _ => [.expression inner]
  | .unary _ operand _ => [.expression operand]
  | .binary _ left right _ => [.expression left, .expression right]
  | .assignment _ place value _ => [.expression place, .expression value]
  | .member base property _ _ => [.expression base, .identifier property]
  | .index base subscript _ => [.expression base, .expression subscript]
  | .call callee arguments _ _ =>
      .expression callee :: arguments.map .expression
  | .other _ _ => []

def PropertyName.children : PropertyName → List Node
  | .identifier named => [.identifier named]
  | .computed key _ => [.expression key]
  | .string _ _ => []
  | .number _ _ => []
  | .privateName _ _ => []

def ObjectMember.children : ObjectMember → List Node
  | .shorthand named => [.identifier named]
  | .property name value _ => [.propertyName name, .expression value]
  | .other _ _ => []

def BindingName.children : BindingName → List Node
  | .identifier named => [.identifier named]
  | .array elements _ => Node.ofElements elements
  | .object properties _ => properties.map .pattern

/-- The nodes right below a statement, in source order.  A block that is a
statement spans the same text as the statement. -/
def Statement.children : Statement → List Node
  | .block statements placement => [.block ⟨statements, placement.span⟩]
  | .expression evaluated _ => [.expression evaluated]
  | .branch condition consequent alternative _ =>
      .expression condition :: .statement consequent ::
        alternative.toList.map .statement
  | .loop header iterable body _ =>
      [Node.ofHeader header, .expression iterable, .statement body]
  | .result returned _ => returned.toList.map .expression
  | .declarations _ declared _ => declared.map .declaration
  | .other _ _ => []

def FunctionDeclaration.children (declared : FunctionDeclaration) : List Node :=
  declared.name.toList.map .identifier ++
    declared.parameters.map .parameter ++ declared.body.toList.map .block

def Item.children : Item → List Node
  | .imports _ => []
  | .function declared => [.function declared]
  | .typeDeclaration _ => []
  | .statement content => [.statement content]

namespace Node

/-- The nodes right below a node, in source order. -/
def children : Node → List Node
  | .item source => source.children
  | .function declared => declared.children
  | .parameter declared => [.pattern declared.name]
  | .block body => body.statements.map .statement
  | .statement source => source.children
  | .declaration declared =>
      .pattern declared.name :: declared.initial.toList.map .expression
  | .pattern bound => bound.children
  | .identifier _ => []
  | .expression source => source.children
  | .propertyName name => name.children
  | .member source => source.children

/-- The text that a node keeps as it stands in the source: a name, or the
digits of a number. -/
def word? : Node → Option String
  | .identifier named => some named.name
  | .expression (.number text _) => some text
  | _ => none

end Node

/-- The nodes of a script: its items and all that is below them. -/
inductive Module.Has (script : Module) : Node → Prop
  | item {item : Item} : item ∈ script.items → script.Has (.item item)
  | child {node child : Node} :
      script.Has node → child ∈ node.children → script.Has child

/-- Nodes stand one after the other. -/
def InSourceOrder (nodes : List Node) : Prop :=
  nodes.Pairwise fun earlier later => earlier.span.stop ≤ later.span.start

/-- What the span of a node tells about the text and about the spans of the
nodes right below it. -/
structure Node.IsExact (text : List Char) (node : Node) : Prop where
  nonempty : node.span.start < node.span.stop
  inText : node.span.stop ≤ byteLength text
  starts : IsBoundary text node.span.start
  stops : IsBoundary text node.span.stop
  encloses : ∀ child ∈ node.children,
    node.span.start ≤ child.span.start ∧ child.span.stop ≤ node.span.stop
  ordered : InSourceOrder node.children
  worded : ∀ word, node.word? = some word →
    node.span.excerpt text = word.toList

/-- A node is exact, and so are all nodes below it. -/
inductive Node.IsSound (text : List Char) : Node → Prop
  | of {node : Node} :
      node.IsExact text →
      (∀ child ∈ node.children, IsSound text child) →
      IsSound text node

theorem Node.IsSound.exact {text : List Char} {node : Node}
    (sound : node.IsSound text) : node.IsExact text := by
  cases sound with
  | of exact _ => exact exact

theorem Node.IsSound.child {text : List Char} {node child : Node}
    (sound : node.IsSound text) (member : child ∈ node.children) :
    child.IsSound text := by
  cases sound with
  | of _ below => exact below child member

/-- If the items of a script are sound, all its nodes are. -/
theorem Module.Has.isSound {text : List Char} {script : Module} {node : Node}
    (has : script.Has node)
    (items : ∀ item ∈ script.items, (Node.item item).IsSound text) :
    node.IsSound text := by
  induction has with
  | item member => exact items _ member
  | child _ member parentSound => exact parentSound.child member

/-! ## Nodes between two offsets -/

/-- Sound nodes that stand one after the other between two offsets. -/
inductive Laid (text : List Char) : Nat → Nat → List Node → Prop
  | nil {first last : Nat} : first ≤ last → Laid text first last []
  | cons {first last : Nat} {node : Node} {others : List Node} :
      first ≤ node.span.start →
      node.IsSound text →
      Laid text node.span.stop last others →
      Laid text first last (node :: others)

namespace Laid

variable {text : List Char} {first middle last : Nat}
  {node : Node} {nodes others : List Node}

theorem le (laid : Laid text first last nodes) : first ≤ last := by
  induction laid with
  | nil ordered => exact ordered
  | cons starts sound _ later =>
      have nonempty := sound.exact.nonempty
      omega

theorem widen {before after : Nat} (laid : Laid text first last nodes)
    (earlier : before ≤ first) (later : last ≤ after) :
    Laid text before after nodes := by
  induction laid generalizing before with
  | nil ordered => exact .nil (by omega)
  | cons starts sound _ inductionHypothesis =>
      exact .cons (by omega) sound
        (inductionHypothesis (Nat.le_refl _) later)

theorem append (laid : Laid text first middle nodes)
    (following : Laid text middle last others) :
    Laid text first last (nodes ++ others) := by
  induction laid with
  | nil ordered => exact following.widen ordered (Nat.le_refl _)
  | cons starts sound _ inductionHypothesis =>
      exact .cons starts sound (inductionHypothesis following)

theorem single (starts : first ≤ node.span.start) (sound : node.IsSound text)
    (stops : node.span.stop ≤ last) : Laid text first last [node] :=
  .cons starts sound (.nil stops)

theorem isSound (laid : Laid text first last nodes) :
    ∀ node ∈ nodes, node.IsSound text := by
  induction laid with
  | nil _ => exact List.forall_mem_nil _
  | cons _ sound _ inductionHypothesis =>
      exact List.forall_mem_cons.mpr ⟨sound, inductionHypothesis⟩

theorem encloses (laid : Laid text first last nodes) :
    ∀ node ∈ nodes, first ≤ node.span.start ∧ node.span.stop ≤ last := by
  induction laid with
  | nil _ => exact List.forall_mem_nil _
  | @cons first last node others starts sound later inductionHypothesis =>
      have nonempty := sound.exact.nonempty
      have stops := later.le
      refine List.forall_mem_cons.mpr ⟨⟨starts, stops⟩, fun other member => ?_⟩
      have enclosed := inductionHypothesis other member
      omega

theorem inSourceOrder (laid : Laid text first last nodes) :
    InSourceOrder nodes := by
  induction laid with
  | nil _ => exact List.Pairwise.nil
  | cons _ _ later inductionHypothesis =>
      exact List.Pairwise.cons (fun other member => (later.encloses other member).1)
        inductionHypothesis

/-- Sound nodes in source order are laid wherever all of them stand. -/
theorem of_inSourceOrder (ordered : InSourceOrder nodes) (le : first ≤ last)
    (sound : ∀ node ∈ nodes, node.IsSound text)
    (enclosed : ∀ node ∈ nodes,
      first ≤ node.span.start ∧ node.span.stop ≤ last) :
    Laid text first last nodes := by
  induction ordered generalizing first with
  | nil => exact .nil le
  | cons later _ inductionHypothesis =>
      have here := List.forall_mem_cons.mp enclosed
      have soundHere := List.forall_mem_cons.mp sound
      refine .cons here.1.1 soundHere.1 (inductionHypothesis here.1.2 soundHere.2 ?_)
      exact fun other member => ⟨later other member, (here.2 other member).2⟩

end Laid

/-- The nodes below a sound node are laid between its ends. -/
theorem Node.IsSound.laidBelow {text : List Char} {node : Node}
    (sound : node.IsSound text) :
    Laid text node.span.start node.span.stop node.children := by
  have exact := sound.exact
  exact .of_inSourceOrder exact.ordered (Nat.le_of_lt exact.nonempty)
    (fun _ member => sound.child member) exact.encloses

/-! ## Nodes between two cursors -/

variable {text : List Char} {count more : Nat} {first start here next : Cursor}
  {node : Node} {nodes : List Node}

/-- Going on from where the last node ends keeps the nodes where they are. -/
theorem Laid.until {offset : Nat} (laid : Laid text offset here.offset nodes)
    (moved : Moves count here next) : Laid text offset next.offset nodes :=
  laid.widen (Nat.le_refl _) moved.offset_le

/-- The text between two cursors is what has been passed on the way. -/
theorem Cursor.StandsIn.excerpt {passed : List Char}
    (stands : start.StandsIn text) (split : start.rest = passed ++ next.rest)
    (counted : next.offset = start.offset + byteLength passed) :
    Span.excerpt text ⟨start.offset, next.offset⟩ = passed := by
  obtain ⟨before, whole, offset, -⟩ := stands
  have startOffset : start.offset = byteLength before := by simpa using offset
  have nextOffset : next.offset = byteLength (before ++ passed) := by
    rw [counted, startOffset, byteLength_append]
  have standing : text = (before ++ passed) ++ next.rest := by
    rw [List.append_assoc, ← split]
    exact whole
  have untilNext : charactersWithin next.offset text = before ++ passed := by
    rw [nextOffset, standing, charactersWithin_byteLength]
  have untilStart : charactersWithin start.offset text = before := by
    rw [startOffset, standing, List.append_assoc, charactersWithin_byteLength]
  rw [Span.excerpt, untilNext, untilStart, List.drop_left]

/-- A node from one cursor to another one is sound if the nodes below it are
laid between the two. -/
theorem Node.isSound_of_laid (stands : start.StandsIn text)
    (moved : Moves 1 start next) (spanned : node.span = ⟨start.offset, next.offset⟩)
    (below : Laid text start.offset next.offset node.children)
    (worded : ∀ word, node.word? = some word →
      node.span.excerpt text = word.toList) : node.IsSound text := by
  have standsNext := stands.after moved
  refine .of ⟨?_, ?_, ?_, ?_, ?_, below.inSourceOrder, worded⟩ below.isSound
  · rw [spanned]
    exact Nat.lt_of_lt_of_le (Nat.lt_succ_self _) moved.offset_lt
  · rw [spanned]
    exact standsNext.offset_le
  · rw [spanned]
    exact stands.isBoundary
  · rw [spanned]
    exact standsNext.isBoundary
  · rw [spanned]
    exact below.encloses

/-- The node that stands between two cursors, if it keeps no word. -/
theorem Laid.ofNode (stands : start.StandsIn text) (moved : Moves 1 start next)
    (spanned : node.span = ⟨start.offset, next.offset⟩)
    (below : Laid text start.offset next.offset node.children)
    (wordless : node.word? = none) :
    Laid text start.offset next.offset [node] := by
  have sound : node.IsSound text := by
    refine Node.isSound_of_laid stands moved spanned below fun word kept => ?_
    rw [wordless] at kept
    cases kept
  have starts : start.offset = node.span.start := by rw [spanned]
  have stops : node.span.stop = next.offset := by rw [spanned]
  exact .single (Nat.le_of_eq starts) sound (Nat.le_of_eq stops)

/-- A node that stands where the only node below it stands. -/
theorem Laid.around {offset : Nat} {child : Node}
    (laid : Laid text offset here.offset [child])
    (spanned : node.span = child.span) (below : node.children = [child])
    (wordless : node.word? = none) : Laid text offset here.offset [node] := by
  cases laid with
  | cons starts sound rest =>
      have stops := rest.le
      have exact := sound.exact
      refine .single (by rw [spanned]; exact starts) ?_ (by rw [spanned]; exact stops)
      refine .of ⟨?_, ?_, ?_, ?_, ?_, ?_, ?_⟩ ?_
      · rw [spanned]
        exact exact.nonempty
      · rw [spanned]
        exact exact.inText
      · rw [spanned]
        exact exact.starts
      · rw [spanned]
        exact exact.stops
      · rw [below, spanned]
        exact List.forall_mem_singleton.mpr ⟨Nat.le_refl _, Nat.le_refl _⟩
      · rw [below]
        exact List.pairwise_singleton _ _
      · intro word kept
        rw [wordless] at kept
        cases kept
      · rw [below]
        exact List.forall_mem_singleton.mpr sound

end VelocityScript.Script
