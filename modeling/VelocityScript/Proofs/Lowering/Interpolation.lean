import VelocityScript.Proofs.Lowering.Provenance
import VelocityScript.Proofs.Template.Writing

/-!
# Variables in template literals

A variable in a template literal is printed as `$` and its name, and the text
after it follows at once.  So the reader of the template takes the name, and no
more, exactly when neither that text nor the value after it can go on with a
name, and the text does not start an access.
-/

namespace VelocityScript.Template

/-- Whether a text after a variable reads as an access to it. -/
def opensAccess : List Char → Bool
  | '[' :: _ => true
  | '.' :: character :: _ => character.isAlpha
  | _ => false

/-- Whether the text of a value starts with a character that can stand in a
name. -/
def Value.opensLikeName : Value → Bool
  | .number _ _ | .boolean _ _ => true
  | _ => false

/-- Whether what follows a variable in a template literal is read as a part of
it: the text after it, or the next value where there is no text. -/
def runsOn : List Char → List TemplateSpan → Bool
  | [], [] => false
  | [], .mk value _ _ :: _ => value.opensLikeName
  | character :: rest, _ =>
      isNameCharacter character || opensAccess (character :: rest)

/-- A variable that stands right after a `$`, with the text of its span and the
rest of the template after it, is read as its name and no more. -/
structure IsDelimited (name literal rest : List Char) : Prop where
  whole : IsLongestName name (name ++ literal ++ rest)
  ends : opensAccess literal = false

/-! ## The first character of a value -/

variable (options : LayoutOptions) (depth : Nat)

/-- The text of a value starts with a character that can stand in a name if it
is a number or a truth value. -/
theorem exists_written_value (value : Value) (rest : List Piece) :
    ∃ character others,
      written options true (value.pieces depth ++ rest) =
          character :: others ∧
        isNameCharacter character = value.opensLikeName := by
  cases value with
  | reference path origin =>
      obtain ⟨others, opens⟩ : ∃ others, path.braces.1.toList = '$' :: others := by
        cases path <;> simp [Path.braces]
      simp only [Value.pieces, List.cons_append, written_true_text, opens]
      exact ⟨_, _, rfl, rfl⟩
  | number number origin =>
      obtain ⟨first, others, spelled, continued⟩ :=
        (isNumberText_text number).starts
      refine ⟨first, others ++ written options true rest, ?_, continued⟩
      simp only [Value.pieces, List.cons_append, List.nil_append,
        written_true_text, spelled]
  | string content quote origin =>
      simp only [Value.pieces, List.cons_append, written_true_text]
      cases quote <;> exact ⟨_, _, rfl, rfl⟩
  | template head spans origin =>
      simp only [Value.pieces, List.cons_append, written_true_text]
      exact ⟨_, _, rfl, rfl⟩
  | boolean truth origin =>
      simp only [Value.pieces, List.cons_append, written_true_text]
      cases truth <;> exact ⟨_, _, rfl, rfl⟩
  | list elements origin =>
      cases elements <;>
        simp only [Value.pieces, List.cons_append, written_true_text] <;>
        exact ⟨_, _, rfl, rfl⟩
  | range first last origin =>
      simp only [Value.pieces, List.cons_append, written_true_text]
      exact ⟨_, _, rfl, rfl⟩
  | map entries origin =>
      cases entries <;>
        simp only [Value.pieces, List.cons_append, written_true_text] <;>
        exact ⟨_, _, rfl, rfl⟩

/-- What follows the text of a span: the next value, or the quote that ends the
literal. -/
theorem exists_written_spans (spans : List TemplateSpan) (later : List Piece) :
    ∃ character others,
      written options true
          (spanPieces depth spans ++ .text depth "\"" :: later) =
          character :: others ∧
        isNameCharacter character = runsOn [] spans := by
  cases spans with
  | nil =>
      simp only [spanPieces, List.nil_append, written_true_text]
      exact ⟨_, _, rfl, rfl⟩
  | cons span others =>
      obtain ⟨value, literal, origin⟩ := span
      simp only [spanPieces, TemplateSpan.pieces, List.append_assoc]
      exact exists_written_value options depth value _

/-- A variable is delimited exactly where nothing runs on. -/
theorem isDelimited_iff {name literal rest : List Char} {character : Char}
    {spans : List TemplateSpan} (named : isName name = true)
    (next : isNameCharacter character = runsOn [] spans) :
    IsDelimited name literal (character :: rest) ↔
      runsOn literal spans = false := by
  have whole : IsLongestName name (name ++ literal ++ character :: rest) ↔
      ∀ found ∈ (literal ++ character :: rest).head?,
        isNameCharacter found = false := by
    rw [List.append_assoc]
    exact isLongestName_append_iff named
  cases literal with
  | nil =>
      simp only [List.nil_append, List.head?_cons, Option.mem_some_iff,
        forall_eq', next] at whole
      exact ⟨fun delimited => whole.mp delimited.whole,
        fun ends => ⟨whole.mpr ends, rfl⟩⟩
  | cons first others =>
      simp only [List.cons_append, List.head?_cons, Option.mem_some_iff,
        forall_eq'] at whole
      simp only [runsOn, Bool.or_eq_false_iff]
      exact ⟨fun delimited => ⟨whole.mp delimited.whole, delimited.ends⟩,
        fun ends => ⟨whole.mpr ends.1, ends.2⟩⟩

theorem spanPieces_append (first second : List TemplateSpan) :
    spanPieces depth (first ++ second) =
      spanPieces depth first ++ spanPieces depth second := by
  induction first with
  | nil => rfl
  | cons span others inductionHypothesis =>
      simp only [List.cons_append, spanPieces, inductionHypothesis,
        List.append_assoc]

/-- The text of a template literal around one of its variables. -/
theorem written_variable (started : Bool) (earlier later : List Piece)
    (head : String) (before after : List TemplateSpan) (name : Identifier)
    (literal : String) (origin nameOrigin spanOrigin : Origin) :
    written options started
        (earlier ++
          (Value.template head
            (before ++
              .mk (.reference (.name name) nameOrigin) literal spanOrigin ::
                after)
            origin).pieces depth ++ later) =
      written options started
          (earlier ++ .text depth "\"" :: .text depth head ::
            (spanPieces depth before ++ [.text depth "$"])) ++
        (name.text.toList ++ literal.toList ++
          written options true
            (spanPieces depth after ++ .text depth "\"" :: later)) := by
  have pieces : earlier ++
      (Value.template head
        (before ++
          .mk (.reference (.name name) nameOrigin) literal spanOrigin :: after)
        origin).pieces depth ++ later =
      (earlier ++ .text depth "\"" :: .text depth head ::
        (spanPieces depth before ++ [.text depth "$"])) ++
        .text depth name.text :: .text depth "" :: .text depth literal ::
          (spanPieces depth after ++ .text depth "\"" :: later) := by
    simp only [Value.pieces, spanPieces_append, spanPieces, TemplateSpan.pieces,
      Path.pieces, Path.braces, List.append_assoc, List.cons_append,
      List.nil_append]
  have going : isStarted started
      (earlier ++ .text depth "\"" :: .text depth head ::
        (spanPieces depth before ++ [.text depth "$"])) = true := by
    have full : "$".isEmpty = false := by decide
    have last := isStarted_concat started
      (earlier ++ .text depth "\"" :: .text depth head ::
        spanPieces depth before) depth full
    simpa only [List.append_assoc, List.cons_append] using last
  rw [pieces, written_append, going, written_true_text, written_true_text,
    written_true_text, String.toList_empty, List.nil_append, List.append_assoc]

/-- Collects the variables that template literals interpolate, each with the
text after it. -/
def Visitor.interpolations : Visitor (String × String) where
  value
    | .template _ spans _ => spans.filterMap fun
        | .mk (.reference (.name name) _) literal _ => some (name.text, literal)
        | _ => none
    | _ => []

/-- A variable that a value interpolates, with its neighbours. -/
theorem exists_spans_of_mem_interpolations {value : Value}
    {variableName literal : String}
    (member : (variableName, literal) ∈ Visitor.interpolations.value value) :
    ∃ head before after name origin nameOrigin spanOrigin,
      value = .template head
        (before ++
          .mk (.reference (.name name) nameOrigin) literal spanOrigin :: after)
        origin ∧
      name.text = variableName := by
  cases value with
  | template head spans origin =>
      obtain ⟨span, inSpans, found⟩ := List.mem_filterMap.mp member
      obtain ⟨before, after, rfl⟩ := List.append_of_mem inSpans
      split at found
      · next name nameOrigin text spanOrigin =>
          cases found
          exact ⟨head, before, after, name, origin, nameOrigin, spanOrigin, rfl,
            rfl⟩
      · cases found
  | _ => cases member

end VelocityScript.Template

namespace VelocityScript.Lowering

open Template

/-- In the templates of a text without diagnostics, every variable that a
template literal interpolates stands in the text right after a `$`, and before
the text of its span.  It is read as its name and no more exactly when what
follows does not run on: it is not delimited by the printer. -/
theorem interpolated_variable_is_delimited_iff {target : Target}
    {source : SourceText} {file : File}
    (clean : (transpile target source).isClean = true)
    (produced : file ∈ (transpile target source).files)
    {head literal : String} {before after : List TemplateSpan}
    {name : Template.Identifier} {origin nameOrigin spanOrigin : Origin}
    (contained :
      Value.template head
          (before ++
            .mk (.reference (.name name) nameOrigin) literal spanOrigin :: after)
          origin ∈
        file.visit .values)
    (options : LayoutOptions) :
    let spans :=
      before ++ .mk (.reference (.name name) nameOrigin) literal spanOrigin :: after
    (∃ depth earlier later, file.pieces options.stripComments =
      earlier ++ (Value.template head spans origin).pieces depth ++ later) ∧
    ∀ depth earlier later, file.pieces options.stripComments =
        earlier ++ (Value.template head spans origin).pieces depth ++ later →
      ∃ rest, (file.render options).toList =
          written options false
              (earlier ++ .text depth "\"" :: .text depth head ::
                (spanPieces depth before ++ [.text depth "$"])) ++
            (name.text.toList ++ literal.toList ++ rest) ∧
        (IsDelimited name.text.toList literal.toList rest ↔
          runsOn literal.toList after = false) := by
  intro spans
  obtain ⟨script, function, parsed, member, yielded⟩ :=
    functionYields_of_mem_files clean produced
  have stands := File.standsIn options.stripComments contained
  have named : isName name.text.toList = true := by
    refine yielded.isName (stands.named ?_)
    simp [Value.visit, visitSpans_append, visitSpans, TemplateSpan.visit,
      Path.visit, Visitor.names]
  constructor
  · obtain ⟨depth, earlier, later, pieces⟩ := stands.printed
    exact ⟨depth, earlier, later, pieces.symm⟩
  · intro depth earlier later pieces
    obtain ⟨character, others, follows, next⟩ :=
      exists_written_spans options depth after later
    refine ⟨character :: others, ?_, isDelimited_iff named next⟩
    rw [File.render, toList_render_node, ← follows, ← written_variable]
    exact congrArg (written options false) pieces

/-- A blank after a variable ends it. -/
theorem interpolated_variable_is_delimited_iff_blank :
    let source : SourceText :=
      ⟨"blank.ts",
        "export function f() \x7b let a = 1; return `$\x7ba\x7d b`; \x7d"⟩
    (transpile .apigateway source).isClean = true ∧
      ∃ file ∈ (transpile .apigateway source).files,
        ∃ head before after name origin nameOrigin spanOrigin,
          Value.template head
              (before ++
                .mk (.reference (.name name) nameOrigin) " b" spanOrigin :: after)
              origin ∈
            file.visit .values ∧
          ∃ earlier rest, (file.render {}).toList =
              earlier ++ (name.text.toList ++ " b".toList ++ rest) ∧
            IsDelimited name.text.toList " b".toList rest := by
  intro source
  have clean : (transpile .apigateway source).isClean = true := by
    decide +kernel
  have present : ((transpile .apigateway source).files.any fun file =>
      (file.visit .values).any fun value =>
        ("a", " b") ∈ Visitor.interpolations.value value) = true := by
    decide +kernel
  obtain ⟨file, produced, inFile⟩ := List.any_eq_true.mp present
  obtain ⟨value, contained, found⟩ := List.any_eq_true.mp inFile
  obtain ⟨head, before, after, name, origin, nameOrigin, spanOrigin, rfl, -⟩ :=
    exists_spans_of_mem_interpolations (of_decide_eq_true found)
  obtain ⟨⟨depth, earlier, later, pieces⟩, read⟩ :=
    interpolated_variable_is_delimited_iff clean produced contained {}
  obtain ⟨rest, text, delimited⟩ := read depth earlier later pieces
  refine ⟨clean, file, produced, head, before, after, name, origin, nameOrigin,
    spanOrigin, contained, _, rest, text, delimited.mpr ?_⟩
  simp [runsOn, isNameCharacter, opensAccess]

/-- A letter after a variable is read as a part of its name. -/
theorem interpolated_variable_takes_letter :
    let source : SourceText :=
      ⟨"letter.ts",
        "export function f() \x7b let a = 1; return `$\x7ba\x7db`; \x7d"⟩
    (transpile .apigateway source).isClean = true ∧
      (∃ file ∈ (transpile .apigateway source).files,
        ("a", "b") ∈ file.visit .interpolations ∧
          file.render {} =
            "## Function: f\n#set($a = 1)\n\"$" ++ "a" ++ "b" ++ "\"") ∧
        ¬ IsDelimited "a".toList "b".toList "\"".toList := by
  refine ⟨by decide +kernel, by decide +kernel, ?_⟩
  intro delimited
  have ends := (isLongestName_append_iff (by decide)).mp delimited.whole 'b' rfl
  cases ends

end VelocityScript.Lowering
