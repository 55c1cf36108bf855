import VelocityScript.Proofs.Lowering.Provenance
import VelocityScript.Proofs.Template.Writing

/-!
# Quotes in template literals

The texts of a template literal are printed without quotes, and so are names,
numbers and truth values.  So a quote inside a template literal comes from a
string or a template literal that is interpolated, at any depth.  Where there
is none, the literal ends at its last character.
-/

namespace VelocityScript.Template

open Lowering

/-- Whether a piece has a quote. -/
def Piece.hasQuote : Piece → Bool
  | .text _ content => Lowering.hasQuote content
  | .lineBreak => false

/-- Whether a value is printed with a quote of its own: it is a template
literal, or a string between double quotes or with one. -/
def Value.showsQuote : Value → Bool
  | .string _ .double _ => true
  | .string content .single _ => Lowering.hasQuote content
  | .template _ _ _ => true
  | _ => false

theorem not_hasQuote_of_isName {name : String}
    (named : isName name.toList = true) : hasQuote name = false := by
  rw [hasQuote, List.contains_eq_mem]
  exact decide_eq_false (quote_not_mem_of_isName named)

theorem not_hasQuote_text (number : Double) : hasQuote number.text = false := by
  rw [hasQuote, List.contains_eq_mem]
  exact decide_eq_false (isNumberText_text number).unquoted

/-- The text of some pieces has a quote exactly when a piece has one. -/
theorem quote_mem_written_iff {options : LayoutOptions}
    (plain : hasQuote options.indentText = false) (started : Bool)
    (pieces : List Piece) :
    '"' ∈ written options started pieces ↔
      pieces.any Piece.hasQuote = true := by
  have unquoted : ∀ depth, '"' ∉ indentation options depth := by
    intro depth member
    unfold indentation at member
    split at member
    · obtain ⟨text, inTexts, inText⟩ := List.mem_flatten.mp member
      rw [List.eq_of_mem_replicate inTexts] at inText
      rw [hasQuote, List.contains_eq_mem] at plain
      exact of_decide_eq_false plain inText
    · cases member
  induction pieces generalizing started with
  | nil => simp [written]
  | cons piece rest inductionHypothesis =>
      cases piece with
      | lineBreak =>
          simp only [written, List.mem_cons, inductionHypothesis, List.any_cons,
            Piece.hasQuote, Bool.false_or]
          simp
      | text depth content =>
          simp only [written, List.any_cons, Piece.hasQuote, hasQuote]
          split
          · next empty =>
              simp [String.isEmpty_iff.mp empty, inductionHypothesis]
          · have indented : '"' ∉
                (if started then [] else indentation options depth) := by
              split
              · exact List.not_mem_nil
              · exact unquoted depth
            simp only [List.mem_append, indented, false_or, inductionHypothesis,
              Bool.or_eq_true, List.contains_iff_mem]

/-! ## Quotes of values -/

/-- No name has a quote. -/
def Unquoted (names : List String) : Prop :=
  ∀ name ∈ names, hasQuote name = false

theorem unquoted_append {first second : List String} :
    Unquoted (first ++ second) ↔ Unquoted first ∧ Unquoted second :=
  List.forall_mem_append

/-- The texts that the printer brings itself have no quotes. -/
theorem not_hasQuote_punctuation :
    hasQuote "." = false ∧ hasQuote "[" = false ∧ hasQuote "]" = false ∧
      hasQuote "(" = false ∧ hasQuote ")" = false ∧ hasQuote ", " = false ∧
      hasQuote ".." = false ∧ hasQuote ": " = false ∧ hasQuote "[]" = false ∧
      hasQuote "\x7b" = false ∧ hasQuote "\x7d" = false ∧
      hasQuote "\x7b\x7d" = false := by
  decide

theorem any_entryEnd (depth : Nat) (isLast : Bool) :
    (entryEnd depth isLast).any Piece.hasQuote = false := by
  cases isLast <;> rfl

theorem not_hasQuote_braces (path : Path) :
    hasQuote path.braces.1 = false ∧ hasQuote path.braces.2 = false := by
  cases path <;> simp only [Path.braces] <;> decide

theorem values_value (value : Value) : Visitor.values.value value = [value] :=
  rfl

mutual

theorem Path.any_hasQuote (depth : Nat) :
    ∀ path : Path, Unquoted (path.visit .names) →
      (path.pieces depth).any Piece.hasQuote =
        (path.visit .values).any Value.showsQuote
  | .name identifier, unquoted => by
      have named : hasQuote identifier.text = false :=
        unquoted identifier.text List.mem_cons_self
      simp only [Path.pieces, Path.visit, Visitor.values, List.any_cons,
        List.any_nil, Piece.hasQuote, named, Bool.or_false]
  | .property base member _, unquoted => by
      obtain ⟨inBase, inMember⟩ := unquoted_append.mp unquoted
      have named : hasQuote member.text = false :=
        inMember member.text List.mem_cons_self
      have rest := base.any_hasQuote depth inBase
      simp only [Path.pieces, Path.visit, List.any_append, List.any_cons,
        List.any_nil, Piece.hasQuote, not_hasQuote_punctuation, named, rest]
      simp only [Visitor.values, List.any_nil, Bool.or_false]
  | .index base subscript _, unquoted => by
      obtain ⟨inBase, inSubscript⟩ := unquoted_append.mp unquoted
      simp only [Path.pieces, Path.visit, List.any_append, List.any_cons,
        List.any_nil, Piece.hasQuote, not_hasQuote_punctuation, Bool.false_or,
        Bool.or_false, base.any_hasQuote depth inBase,
        subscript.any_hasQuote depth inSubscript]
  | .call base method _ arguments _, unquoted => by
      obtain ⟨inCallee, inArguments⟩ := unquoted_append.mp unquoted
      obtain ⟨inBase, inMethod⟩ := unquoted_append.mp inCallee
      have named : hasQuote method.text = false :=
        inMethod method.text List.mem_cons_self
      have rest := base.any_hasQuote depth inBase
      have others := argumentPieces_any_hasQuote depth arguments inArguments
      simp only [Path.pieces, Path.visit, List.any_append, List.any_cons,
        List.any_nil, Piece.hasQuote, not_hasQuote_punctuation, named, rest,
        others, Bool.false_or, Bool.or_false]
      simp only [Visitor.values, List.any_nil, Bool.or_false]

theorem Value.any_hasQuote (depth : Nat) :
    ∀ value : Value, Unquoted (value.visit .names) →
      (value.pieces depth).any Piece.hasQuote =
        (value.visit .values).any Value.showsQuote
  | .reference path _, unquoted => by
      have rest := path.any_hasQuote depth unquoted
      simp only [Value.pieces, Value.visit, List.any_append, List.any_cons,
        List.any_nil, Piece.hasQuote, not_hasQuote_braces, rest, Bool.false_or,
        Bool.or_false]
      rfl
  | .number number _, _ => by
      simp only [Value.pieces, List.any_cons, List.any_nil, Piece.hasQuote,
        not_hasQuote_text]
      rfl
  | .string content .double _, _ => by
      have marked : hasQuote (String.singleton '"') = true := by decide
      simp only [Value.pieces, Quote.character, List.any_cons, Piece.hasQuote,
        marked, Bool.true_or]
      rfl
  | .string content .single _, _ => by
      have marked : hasQuote (String.singleton '\'') = false := by decide
      simp only [Value.pieces, Quote.character, List.any_cons, List.any_nil,
        Piece.hasQuote, marked, Bool.false_or, Bool.or_false]
      exact (Bool.or_false _).symm
  | .template head spans _, _ => by
      have marked : hasQuote "\"" = true := by decide
      simp only [Value.pieces, List.any_cons, Piece.hasQuote, marked,
        Bool.true_or]
      rfl
  | .boolean truth _, _ => by
      have unmarked : hasQuote (if truth then "true" else "false") = false := by
        cases truth <;> decide
      simp only [Value.pieces, List.any_cons, List.any_nil, Piece.hasQuote,
        unmarked]
      rfl
  | .list [] _, _ => by
      simp only [Value.pieces, List.any_cons, List.any_nil, Piece.hasQuote,
        not_hasQuote_punctuation]
      rfl
  | .list (element :: others) _, unquoted => by
      have inElements : Unquoted (visitValues .names (element :: others)) :=
        unquoted
      obtain ⟨inFirst, inOthers⟩ := unquoted_append.mp inElements
      simp only [Value.pieces, List.any_cons, List.any_append, List.any_nil,
        Piece.hasQuote, not_hasQuote_punctuation, any_entryEnd, Bool.false_or,
        Bool.or_false, element.any_hasQuote (depth + 1) inFirst,
        elementPieces_any_hasQuote (depth + 1) others inOthers]
      simp only [Value.visit, visitValues, values_value, List.any_append,
        List.any_cons, List.any_nil, Value.showsQuote, Bool.false_or,
        Bool.or_false]
  | .range first last _, unquoted => by
      obtain ⟨inFirst, inLast⟩ := unquoted_append.mp unquoted
      simp only [Value.pieces, List.any_cons, List.any_append, List.any_nil,
        Piece.hasQuote, not_hasQuote_punctuation, Bool.false_or, Bool.or_false,
        first.any_hasQuote depth inFirst, last.any_hasQuote depth inLast]
      simp only [Value.visit, values_value, List.any_append, List.any_cons,
        List.any_nil, Value.showsQuote, Bool.false_or, Bool.or_false]
  | .map [] _, _ => by
      simp only [Value.pieces, List.any_cons, List.any_nil, Piece.hasQuote,
        not_hasQuote_punctuation]
      rfl
  | .map (entry :: others) _, unquoted => by
      have inEntries : Unquoted (visitEntries .names (entry :: others)) :=
        unquoted
      obtain ⟨inFirst, inOthers⟩ := unquoted_append.mp inEntries
      simp only [Value.pieces, List.any_cons, List.any_append, List.any_nil,
        Piece.hasQuote, not_hasQuote_punctuation, any_entryEnd, Bool.false_or,
        Bool.or_false, entry.any_hasQuote (depth + 1) inFirst,
        entryPieces_any_hasQuote (depth + 1) others inOthers]
      simp only [Value.visit, visitEntries, values_value, List.any_append,
        List.any_cons, List.any_nil, Value.showsQuote, Bool.false_or,
        Bool.or_false]

theorem RangeBound.any_hasQuote (depth : Nat) :
    ∀ bound : RangeBound, Unquoted (bound.visit .names) →
      (bound.pieces depth).any Piece.hasQuote =
        (bound.visit .values).any Value.showsQuote
  | .number number _, _ => by
      simp only [RangeBound.pieces, List.any_cons, List.any_nil, Piece.hasQuote,
        not_hasQuote_text]
      rfl
  | .reference path _, unquoted => by
      have rest := path.any_hasQuote depth unquoted
      simp only [RangeBound.pieces, RangeBound.visit, List.any_append,
        List.any_cons, List.any_nil, Piece.hasQuote, not_hasQuote_braces, rest,
        Bool.false_or, Bool.or_false]

theorem MapEntry.any_hasQuote (depth : Nat) :
    ∀ entry : MapEntry, Unquoted (entry.visit .names) →
      (entry.pieces depth).any Piece.hasQuote =
        (entry.visit .values).any Value.showsQuote
  | .mk name value _, unquoted => by
      obtain ⟨inName, inValue⟩ := unquoted_append.mp unquoted
      simp only [MapEntry.pieces, MapEntry.visit, List.any_append,
        List.any_cons, Piece.hasQuote, not_hasQuote_punctuation, Bool.false_or,
        name.any_hasQuote depth inName, value.any_hasQuote depth inValue]

theorem argumentPieces_any_hasQuote (depth : Nat) :
    ∀ arguments : List Value, Unquoted (visitValues .names arguments) →
      (argumentPieces depth arguments).any Piece.hasQuote =
        (visitValues .values arguments).any Value.showsQuote
  | [], _ => rfl
  | argument :: others, unquoted => by
      obtain ⟨inFirst, inOthers⟩ := unquoted_append.mp unquoted
      simp only [argumentPieces, visitValues, List.any_append,
        argument.any_hasQuote depth inFirst,
        moreArgumentPieces_any_hasQuote depth others inOthers]

theorem moreArgumentPieces_any_hasQuote (depth : Nat) :
    ∀ arguments : List Value, Unquoted (visitValues .names arguments) →
      (moreArgumentPieces depth arguments).any Piece.hasQuote =
        (visitValues .values arguments).any Value.showsQuote
  | [], _ => rfl
  | argument :: others, unquoted => by
      obtain ⟨inFirst, inOthers⟩ := unquoted_append.mp unquoted
      simp only [moreArgumentPieces, visitValues, List.any_cons,
        List.any_append, Piece.hasQuote, not_hasQuote_punctuation,
        Bool.false_or, argument.any_hasQuote depth inFirst,
        moreArgumentPieces_any_hasQuote depth others inOthers]

theorem elementPieces_any_hasQuote (depth : Nat) :
    ∀ elements : List Value, Unquoted (visitValues .names elements) →
      (elementPieces depth elements).any Piece.hasQuote =
        (visitValues .values elements).any Value.showsQuote
  | [], _ => rfl
  | element :: others, unquoted => by
      obtain ⟨inFirst, inOthers⟩ := unquoted_append.mp unquoted
      simp only [elementPieces, visitValues, List.any_append, any_entryEnd,
        Bool.or_false, element.any_hasQuote depth inFirst,
        elementPieces_any_hasQuote depth others inOthers]

theorem entryPieces_any_hasQuote (depth : Nat) :
    ∀ entries : List MapEntry, Unquoted (visitEntries .names entries) →
      (entryPieces depth entries).any Piece.hasQuote =
        (visitEntries .values entries).any Value.showsQuote
  | [], _ => rfl
  | entry :: others, unquoted => by
      obtain ⟨inFirst, inOthers⟩ := unquoted_append.mp unquoted
      simp only [entryPieces, visitEntries, List.any_append, any_entryEnd,
        Bool.or_false, entry.any_hasQuote depth inFirst,
        entryPieces_any_hasQuote depth others inOthers]

end

/-- The text after an interpolated value. -/
def TemplateSpan.literal : TemplateSpan → String
  | .mk _ literal _ => literal

theorem spanPieces_any_hasQuote (depth : Nat) {spans : List TemplateSpan}
    (escaped : ∀ span ∈ spans, hasQuote span.literal = false)
    (unquoted : Unquoted (visitSpans .names spans)) :
    (spanPieces depth spans).any Piece.hasQuote =
      (visitSpans .values spans).any Value.showsQuote := by
  induction spans with
  | nil => rfl
  | cons span others inductionHypothesis =>
      obtain ⟨value, literal, origin⟩ := span
      obtain ⟨inValue, inOthers⟩ := unquoted_append.mp unquoted
      obtain ⟨here, later⟩ := List.forall_mem_cons.mp escaped
      simp only [TemplateSpan.literal] at here
      simp only [spanPieces, visitSpans, TemplateSpan.pieces,
        TemplateSpan.visit, List.any_append, List.any_cons, List.any_nil,
        Piece.hasQuote, here, Bool.or_false, value.any_hasQuote depth inValue,
        inductionHypothesis later inOthers]

theorem indentation_zero (options : LayoutOptions) :
    indentation options 0 = [] := by
  unfold indentation
  split <;> rfl

/-- A template literal is printed between two quotes. -/
theorem toList_render_template (options : LayoutOptions) (head : String)
    (spans : List TemplateSpan) (origin : Origin) :
    ((Node.ofExpression (.ofValue (.template head spans origin))).render
        options).toList =
      '"' :: (written options true (.text 0 head :: spanPieces 0 spans) ++
        ['"']) := by
  have ending : ∀ started, written options started [.text 0 "\""] = ['"'] := by
    intro started
    cases started <;> simp [written, indentation_zero]
  have opening : ∀ rest, written options false (.text 0 "\"" :: rest) =
      '"' :: written options true rest := by
    intro rest
    simp [written, indentation_zero]
  rw [toList_render_node, Node.pieces, Expression.pieces, Value.pieces, opening,
    ← List.cons_append, written_append, ending]

end VelocityScript.Template

namespace VelocityScript.Lowering

open Script Template

/-- Escaping leaves no quote. -/
theorem not_hasQuote_escapedText (text : String) :
    hasQuote (escapedText text) = false := by
  have escape : '"' ∉ "$\x7besc.q\x7d".toList := by decide
  rw [hasQuote, List.contains_eq_mem, escapedText, String.toList_ofList]
  refine decide_eq_false fun member => ?_
  obtain ⟨character, -, found⟩ := List.mem_flatMap.mp member
  split at found
  · exact escape found
  · next other => exact other (List.mem_singleton.mp found).symm

theorem Derives.escaped_parts {target : Target} {parts : List TemplatePart}
    {first next : Nat} {spans : List TemplateSpan} {effect : Effect}
    (derived : Derives target (.parts parts) first spans next effect) :
    ∀ span ∈ spans, hasQuote span.literal = false := by
  induction parts generalizing first spans effect with
  | nil =>
      cases derived
      exact List.forall_mem_nil _
  | cons part others inductionHypothesis =>
      cases derived with
      | moreParts partDerived othersDerived =>
          refine List.forall_mem_cons.mpr
            ⟨?_, inductionHypothesis othersDerived⟩
          cases partDerived with
          | part value => exact not_hasQuote_escapedText _

/-- A template literal of the script becomes a template literal whose text is
between two quotes.  No other quote stands in it exactly when no string and no
template literal is interpolated, at any depth. -/
theorem template_is_one_string_iff (target : Target) (head : String)
    (parts : List TemplatePart) (span : Span) {options : LayoutOptions}
    (plain : hasQuote options.indentText = false) :
    Achieves (lowerExpression target (.template head parts span))
      fun _ result _ _ => ∃ text spans,
        result = .ofValue (.template text spans (some span)) ∧
          ∃ inside,
            ((Node.ofExpression result).render options).toList =
              '"' :: (inside ++ ['"']) ∧
            ('"' ∉ inside ↔ ∀ value ∈ visitSpans .values spans,
              value.showsQuote = false) := by
  refine Task.achieves (.expression (.template head parts span)) ?_
  intro first result next effect derived
  cases derived with
  | @template _ _ _ _ _ spans _ partsDerived =>
      refine ⟨escapedText head, spans, rfl, _, toList_render_template _ _ _ _, ?_⟩
      have unquoted : Unquoted (visitSpans .names spans) := fun name member =>
        not_hasQuote_of_isName (partsDerived.traced.result name member).isName
      have quotes := spanPieces_any_hasQuote 0 partsDerived.escaped_parts unquoted
      rw [quote_mem_written_iff plain, List.any_cons, Piece.hasQuote,
        not_hasQuote_escapedText, Bool.false_or, quotes, Bool.not_eq_true,
        List.any_eq_false]
      simp only [Bool.not_eq_true]

/-- Quotes in the text around a variable are escaped. -/
theorem template_is_one_string_iff_escaped :
    let span : Span := ⟨0, 0⟩
    let name : Script.Identifier := ⟨"a", span, .variableName⟩
    let source := Script.Expression.template "say \""
      [.mk (.identifier name) "\"!"] span
    let lowered := (lowerExpression .apigateway source).run {}
    (hasQuote ({} : LayoutOptions).indentText = false ∧
      lowered.2.reports = []) ∧
        ∃ result inside, lowered.1 = some result ∧
          ((Node.ofExpression result).render {}).toList =
            '"' :: (inside ++ ['"']) ∧
          '"' ∉ inside := by
  intro span name source lowered
  have plain : hasQuote ({} : LayoutOptions).indentText = false := by
    decide
  have silent : lowered.2.reports = [] := by
    decide +kernel
  have safe : (lowered.1.all fun result =>
      (result.visit .values).tail.all fun value => !value.showsQuote) = true := by
    decide +kernel
  obtain ⟨result, directives, found, -, text, spans, rfl, inside, printed,
    single⟩ := template_is_one_string_iff .apigateway _ _ _ plain {} silent
  refine ⟨⟨plain, silent⟩, _, inside, found, printed, single.mpr ?_⟩
  have gotten : lowered.1 = some (.ofValue (.template text spans (some span))) :=
    found
  rw [gotten] at safe
  intro value member
  simpa using List.all_eq_true.mp safe value member

/-- A string that is interpolated ends the template literal around it. -/
theorem interpolated_string_ends_template :
    let span : Span := ⟨0, 0⟩
    let lowered := (lowerExpression .apigateway
      (.template "x" [.mk (.string "y" span) "z"] span)).run {}
    lowered.2.reports = [] ∧
      lowered.1.map (fun result => (Node.ofExpression result).render {}) =
        some "\"x\"y\"z\"" := by
  decide +kernel

end VelocityScript.Lowering
