import VelocityScript.Proofs.Script.TypeEnds
import VelocityScript.Transpile

/-!
# Declarations with an annotation

A declaration without an initial value ends at a semicolon or in front of a line
break.  With an annotation it ends at a semicolon only: the annotation takes the
line behind the break as well, up to a comma, a semicolon, an equals sign or a
closing bracket outside of brackets.
-/

namespace VelocityScript.Script

open VelocityScript.Script.Parser

/-! ## Words -/

section Words

variable {cursor : Cursor} {name : String} {rest : List Char}

/-- A word that the text behind it does not go on is the next token. -/
theorem Cursor.faces_word (word : isWord name = true)
    (stops : rest.takeWhile isNamePart = [])
    (ahead : cursor.rest = name.toList ++ rest ∨
      cursor.rest = ' ' :: (name.toList ++ rest)) :
    cursor.Faces (.word name) rest := by
  obtain ⟨first, others, spelled, starts, goesOn⟩ := exists_of_isWord word
  have text : startsText first = true := by
    rw [startsText, starts, Bool.true_or]
  have front : cursor.tokenStart.rest = name.toList ++ rest := by
    refine Cursor.tokenStart_rest ?_ ahead
    rw [spelled]
    exact triviaLength_eq_zero (isSpace_of_startsText text) (ne_of_test '/' text)
  refine ⟨front, ?_, ?_⟩
  · rw [Cursor.punctuator?, front, spelled]
    exact atFront?_eq_none text
  · have found : wordAtFront? (name.toList ++ rest) = some name.toList := by
      rw [spelled, List.cons_append, wordAtFront?, if_pos starts,
        List.takeWhile_append_of_pos goesOn, stops, List.append_nil]
    rw [Cursor.word?, front, found]
    exact congrArg some String.ofList_toList

/-- The word behind a word. -/
theorem Cursor.Faces.secondWord? (faces : cursor.Faces (.word name) rest) :
    cursor.secondWord? =
      (cursor.tokenStart.advance name.toList.length).word? := by
  rw [Cursor.secondWord?, Cursor.afterWord?, Cursor.Faces.wordAtFront? faces]
  rfl

end Words

namespace Grammar

variable {nested : Nested} {cursor here next : Cursor} {name : String}
  {rest : List Char}

/-! ## A statement that declares names -/

/-- A declaration from the text behind its annotation on. -/
def declarationEnd (nested : Nested) (name : BindingName) (start : Nat) :
    Parser Declaration := do
  let initial ←
    if ← eat .assign then do
      pure (some (← nested.assignment))
    else
      pure none
  return { name, initial, span := ← spanFrom start }

/-- A declaration from the text behind its name on. -/
def declarationRest (nested : Nested) (name : BindingName) (start : Nat) :
    Parser Declaration := do
  discard (eat .not)
  if ← eat .colon then
    skipType .token
    declarationEnd nested name start
  else
    declarationEnd nested name start

theorem declaration_eq (nested : Nested) :
    declaration nested = (do
      let start ← tokenOffset
      let name ← bindingName nested
      declarationRest nested name start) :=
  rfl

/-- One round of the loop over the declarations behind the first one. -/
def declarationRound (nested : Nested) (declared : List Declaration) :
    Parser (Round (List Declaration) (List Declaration)) := do
  if ← eat .comma then
    return .again (declared ++ [← declaration nested])
  else
    return .finished declared

theorem declarations_eq (nested : Nested) (keyword : DeclarationKeyword) :
    declarations nested keyword = (do
      discard word
      let first ← declaration nested
      let declared ← repeating [first] (declarationRound nested)
      semicolon
      return .declarations keyword declared) :=
  rfl

/-- The keyword announces declarations where a word follows it. -/
theorem statementForm_of_let (faces : cursor.Faces (.word "let") rest)
    (second : cursor.secondWord?.isSome = true) :
    statementForm nested cursor = declarations nested .let cursor := by
  have brace : cursor.sees .openBrace = false := by
    rw [faces.sees]
    rfl
  have semicolon : cursor.sees .semicolon = false := by
    rw [faces.sees]
    rfl
  have word : cursor.word? = some "let" := faces.word
  have chosen : wordStatement nested "let" cursor = declarations nested .let := by
    unfold wordStatement
    rw [if_neg (by simp), if_neg (by simp), second, if_pos (by simp)]
  unfold statementForm
  rw [bind_get, brace, if_neg Bool.false_ne_true, bind_eat_of_unseen semicolon,
    if_neg Bool.false_ne_true, word]
  exact congrFun chosen cursor

/-- What a statement that declares names is read from. -/
theorem statement_of_let_eq_ok {inside : Cursor} {found : Identifier}
    {source : Statement} (faces : cursor.Faces (.word "let") rest)
    (second : cursor.secondWord?.isSome = true)
    (passed : Parser.word cursor = .ok (found, inside)) :
    statement nested cursor = .ok (source, next) ↔
      ∃ first behind declared ended,
        declaration nested inside = .ok (first, behind) ∧
        repeating [first] (declarationRound nested) behind =
          .ok (declared, ended) ∧
        semicolon ended = .ok ((), next) ∧
        source = .declarations .let declared
          ⟨⟨cursor.tokenStart.offset, next.offset⟩, cursor.leadingNewlines⟩ := by
  have skipped : discard Parser.word cursor = .ok ((), inside) :=
    discard_eq_ok.mpr ⟨found, passed⟩
  unfold statement
  rw [bind_get, bind_eq_ok]
  rw [statementForm_of_let faces second, declarations_eq, bind_of_ok skipped]
  constructor
  · rintro ⟨form, between, read, finished⟩
    obtain ⟨first, behind, readFirst, read⟩ := bind_eq_ok.mp read
    obtain ⟨declared, ended, readOthers, read⟩ := bind_eq_ok.mp read
    obtain ⟨_, final, closed, read⟩ := bind_eq_ok.mp read
    cases read
    cases finished
    exact ⟨first, behind, declared, ended, readFirst, readOthers, closed, rfl⟩
  · rintro ⟨first, behind, declared, ended, readFirst, readOthers, closed, rfl⟩
    refine ⟨.declarations .let declared, next, ?_, rfl⟩
    rw [bind_of_ok readFirst, bind_of_ok readOthers, bind_of_ok closed]
    rfl

/-! ## A declaration of one name -/

/-- Where a declaration without an initial value ends, and the statement with
it. -/
structure EndsAt (here next : Cursor) : Prop where
  noInitial : here.sees .assign = false
  noOther : here.sees .comma = false
  closed : semicolon here = .ok ((), next)

/-- Another declaration makes the statement a longer one. -/
theorem declared_cases {first : Declaration} {declared : List Declaration}
    {ended : Cursor}
    (ran : repeating [first] (declarationRound nested) here =
      .ok (declared, ended)) :
    (here.sees .comma = false ∧ declared = [first] ∧ ended = here) ∨
      ∃ second others, declared = first :: second :: others := by
  refine repeating_satisfies
    (fun declared cursor => (declared = [first] ∧ cursor = here) ∨
      ∃ second others, declared = first :: second :: others)
    (fun declared cursor =>
      (here.sees .comma = false ∧ declared = [first] ∧ cursor = here) ∨
        ∃ second others, declared = first :: second :: others)
    ?_ (Or.inl ⟨rfl, rfl⟩) ran
  intro declared cursor outcome following invariant ranRound
  cases seen : cursor.sees .comma with
  | true =>
      rw [declarationRound, bind_of_ok (eat_of_sees seen), if_pos rfl] at ranRound
      obtain ⟨added, between, -, same⟩ := bind_eq_ok.mp ranRound
      cases same
      rcases invariant with ⟨rfl, -⟩ | ⟨second, others, rfl⟩
      · exact Or.inr ⟨added, [], rfl⟩
      · exact Or.inr ⟨second, others ++ [added], rfl⟩
  | false =>
      rw [declarationRound, bind_eat_of_unseen seen] at ranRound
      cases ranRound
      rcases invariant with ⟨rfl, rfl⟩ | longer
      · exact Or.inl ⟨seen, rfl, rfl⟩
      · exact Or.inr longer

theorem repeating_of_unseen {declared : List Declaration}
    (seen : here.sees .comma = false) :
    repeating declared (declarationRound nested) here = .ok (declared, here) := by
  have ended : declarationRound nested declared here =
      .ok (.finished declared, here) := by
    rw [declarationRound, bind_eat_of_unseen seen]
    rfl
  have unfolded : repeating declared (declarationRound nested) here =
      iterate (declarationRound nested) (here.rest.length + 1) declared here := rfl
  rw [unfolded, iterate, bind_of_ok ended]
  rfl

theorem declarationEnd_of_unseen {bound : BindingName} {start : Nat}
    (seen : here.sees .assign = false) :
    declarationEnd nested bound start here =
      .ok (⟨bound, none, ⟨start, here.offset⟩⟩, here) := by
  rw [declarationEnd, bind_eat_of_unseen seen]
  rfl

/-- An equals sign gives a declaration an initial value. -/
theorem initial_of_sees {bound : BindingName} {start : Nat}
    {first : Declaration} (seen : here.sees .assign = true)
    (ran : declarationEnd nested bound start here = .ok (first, next)) :
    first.initial.isSome = true := by
  rw [declarationEnd, bind_of_ok (eat_of_sees seen), if_pos rfl] at ran
  obtain ⟨initial, between, -, ran⟩ := bind_eq_ok.mp ran
  cases ran
  rfl

end Grammar

/-- The declaration of a name without an initial value, up to places. -/
def Statement.declaringAlone (name : String) : Statement :=
  .declarations .let
    [⟨.identifier { name, span := ⟨0, 0⟩ }, none, ⟨0, 0⟩⟩] ⟨⟨0, 0⟩, 0⟩

theorem unplaced_declarations {declared : List Declaration} {name : String}
    {placement : Placement} :
    (Statement.declarations .let declared placement).unplaced =
        .declaringAlone name ↔
      declared.map (Declaration.relocate fun _ => ⟨0, 0⟩) =
        [⟨.identifier { name, span := ⟨0, 0⟩ }, none, ⟨0, 0⟩⟩] := by
  have unfolded : (Statement.declarations .let declared placement).unplaced =
      .declarations .let (declared.map (Declaration.relocate fun _ => ⟨0, 0⟩))
        ⟨⟨0, 0⟩, 0⟩ := rfl
  rw [unfolded, Statement.declaringAlone]
  constructor
  · intro same
    injection same
  · intro same
    rw [same]

namespace Grammar

/-- A declaration of one name ends where neither an initial value nor another
declaration follows. -/
theorem declares_alone_iff (nested : Nested) (start : Nat)
    (place : Cursor → Placement) {named : Identifier} (spelled : named.name = name)
    (unresolved : named.binding = .unresolved) :
    (∃ first behind declared ended,
        declarationEnd nested (.identifier named) start here =
          .ok (first, behind) ∧
        repeating [first] (declarationRound nested) behind =
          .ok (declared, ended) ∧
        semicolon ended = .ok ((), next) ∧
        (Statement.declarations .let declared (place next)).unplaced =
          .declaringAlone name) ↔
      EndsAt here next := by
  constructor
  · rintro ⟨first, behind, declared, ended, read, readOthers, closed, alone⟩
    rw [unplaced_declarations] at alone
    have noInitial : here.sees .assign = false := by
      refine Bool.eq_false_iff.mpr fun seen => ?_
      have some := initial_of_sees seen read
      obtain ⟨others, rfl⟩ : ∃ others, declared = first :: others := by
        rcases declared_cases readOthers with
          ⟨-, rfl, -⟩ | ⟨second, others, rfl⟩
        · exact ⟨[], rfl⟩
        · exact ⟨second :: others, rfl⟩
      have none : first.initial.map (Expression.relocate fun _ => ⟨0, 0⟩) =
          none := congrArg Declaration.initial (List.cons.inj alone).1
      rw [Option.map_eq_none_iff.mp none] at some
      cases some
    rw [declarationEnd_of_unseen noInitial] at read
    cases read
    rcases declared_cases readOthers with
      ⟨noOther, rfl, rfl⟩ | ⟨second, others, rfl⟩
    · exact ⟨noInitial, noOther, closed⟩
    · have lengths := congrArg List.length alone
      simp at lengths
  · rintro ⟨noInitial, noOther, closed⟩
    refine ⟨_, _, _, _, declarationEnd_of_unseen noInitial,
      repeating_of_unseen noOther, closed, ?_⟩
    rw [unplaced_declarations]
    subst spelled
    obtain ⟨spelling, span, binding⟩ := named
    cases unresolved
    rfl

/-- What is read in front of the text behind a declared name. -/
theorem declaration_of_name {behindName : List Char} {inside : Cursor}
    (word : isWord name = true) (free : isReserved name = false)
    (stops : behindName.takeWhile isNamePart = [])
    (standing : inside.rest = ' ' :: (name.toList ++ behindName)) :
    ∃ (named : Identifier) (behind : Cursor), named.name = name ∧
      named.binding = .unresolved ∧ behind.rest = behindName ∧
      ∀ nested, declaration nested inside =
        declarationRest nested (.identifier named) inside.tokenStart.offset
          behind := by
  have faces := Cursor.faces_word word stops (Or.inr standing)
  obtain ⟨named, behind, read, ⟨spelled, unresolved⟩, left⟩ :=
    delivers_identifier faces free
  refine ⟨named, behind, spelled, unresolved, left, fun nested => ?_⟩
  have bracket : inside.sees .openBracket = false := by
    rw [faces.sees]
    rfl
  have brace : inside.sees .openBrace = false := by
    rw [faces.sees]
    rfl
  have bound : bindingName nested inside = .ok (.identifier named, behind) := by
    unfold bindingName
    rw [bind_tokenOffset, bind_eat_of_unseen bracket,
      if_neg Bool.false_ne_true, bind_eat_of_unseen brace,
      if_neg Bool.false_ne_true, bind_of_ok read]
    rfl
  rw [declaration_eq, bind_tokenOffset, bind_of_ok bound]

/-- Without an annotation, a declaration goes on behind the name. -/
theorem declarationRest_of_bare (nested : Nested) (bound : BindingName)
    (start : Nat) (noMark : here.sees .not = false) (noColon : here.sees .colon = false) :
    declarationRest nested bound start here =
      declarationEnd nested bound start here := by
  have skipped : discard (eat .not) here = .ok ((), here) :=
    discard_eq_ok.mpr ⟨false, eat_of_unseen noMark⟩
  rw [declarationRest, bind_of_ok skipped, bind_eat_of_unseen noColon]
  rfl

/-- With an annotation, it goes on behind the type. -/
theorem declarationRest_of_colon {bound : BindingName} {start : Nat}
    {first : Declaration} (standing : here.rest = ':' :: ' ' :: rest) :
    declarationRest nested bound start here = .ok (first, next) ↔
      ∃ middle, skipType .token (here.advance 1) = .ok ((), middle) ∧
        declarationEnd nested bound start middle = .ok (first, next) := by
  have token : here.tokenStart = here :=
    tokenStart_of_visible standing (by decide) (by decide)
  have mark : here.punctuator? = some .colon := by
    rw [Cursor.punctuator?, token, standing]
    rfl
  have noMark : here.sees .not = false := by
    rw [Cursor.sees, mark]
    rfl
  have colon : here.sees .colon = true := by
    rw [Cursor.sees, mark]
    rfl
  have skipped : discard (eat .not) here = .ok ((), here) :=
    discard_eq_ok.mpr ⟨false, eat_of_unseen noMark⟩
  rw [declarationRest, bind_of_ok skipped, bind_of_ok (eat_of_sees colon),
    if_pos rfl, token, bind_eq_ok]
  constructor
  · rintro ⟨_, middle, annotated, ended⟩
    exact ⟨middle, annotated, ended⟩
  · rintro ⟨middle, annotated, ended⟩
    exact ⟨(), middle, annotated, ended⟩

end Grammar

/-! ## Declarations in a text -/

section Texts

variable {name : String} {behindName left : List Char}

/-- Where a declaration without an initial value ends in front of a text, what
the statement leaves of it. -/
structure ClosesDeclaration (text left : List Char) : Prop where
  noInitial : (Cursor.mk 0 text).sees .assign = false
  noOther : (Cursor.mk 0 text).sees .comma = false
  closed : semicolon.left? text = some left

theorem closesDeclaration_iff {here : Cursor} :
    ClosesDeclaration here.rest left ↔
      ∃ next, Grammar.EndsAt here next ∧ next.rest = left := by
  constructor
  · rintro ⟨noInitial, noOther, closed⟩
    obtain ⟨next, ran, same⟩ := (semicolon_left?_eq_some rfl).mp closed
    exact ⟨next, ⟨noInitial, noOther, ran⟩, same⟩
  · rintro ⟨next, ⟨noInitial, noOther, ran⟩, same⟩
    exact ⟨noInitial, noOther, (semicolon_left?_eq_some rfl).mpr ⟨next, ran, same⟩⟩

/-- A text that starts with a declaration of a name. -/
def declarationText (name : String) (behindName : List Char) : List Char :=
  "let ".toList ++ (name.toList ++ behindName)

theorem faces_let (name : String) (behindName : List Char) :
    (Cursor.mk 0 (declarationText name behindName)).Faces (.word "let")
      (' ' :: (name.toList ++ behindName)) :=
  Cursor.faces_word rfl rfl (Or.inl rfl)

theorem continuesBody_declarationText :
    ContinuesBody (declarationText name behindName) := by
  have faces := faces_let name behindName
  refine ⟨?_, ?_⟩
  · rw [faces.sees]
    rfl
  · rw [Cursor.atEnd, faces.front]
    rfl

/-- How a declaration of a name is read as the first statement of a text. -/
theorem firstStatement?_of_name (behindName : List Char) (word : isWord name = true)
    (free : isReserved name = false)
    (stops : behindName.takeWhile isNamePart = []) :
    ∃ (nested : Nested) (named : Identifier) (behind : Cursor) (start : Nat)
      (place : Cursor → Placement), named.name = name ∧
        named.binding = .unresolved ∧ behind.rest = behindName ∧ ∀ left,
          firstStatement? (declarationText name behindName) =
              some (.declaringAlone name, left) ↔
            ∃ next, (∃ first here declared ended,
              Grammar.declarationRest nested (.identifier named) start behind =
                .ok (first, here) ∧
              repeating [first] (Grammar.declarationRound nested) here =
                .ok (declared, ended) ∧
              semicolon ended = .ok ((), next) ∧
              (Statement.declarations .let declared (place next)).unplaced =
                .declaringAlone name) ∧ next.rest = left := by
  have faces := faces_let name behindName
  obtain ⟨found, inside, passed, -, standing⟩ := delivers_word faces
  obtain ⟨named, behind, spelled, unresolved, left, read⟩ :=
    Grammar.declaration_of_name word free stops standing
  have second : (Cursor.mk 0 (declarationText name behindName)).secondWord?.isSome =
      true := by
    have facesName := Cursor.faces_word word stops
      (Or.inr (Cursor.Faces.rest_advance faces))
    rw [Cursor.Faces.secondWord? faces]
    exact congrArg Option.isSome facesName.word
  refine ⟨Nested.ofDepth ((declarationText name behindName).length + 1), named,
    behind, inside.tokenStart.offset, fun next =>
      ⟨⟨(Cursor.mk 0 (declarationText name behindName)).tokenStart.offset,
        next.offset⟩,
        (Cursor.mk 0 (declarationText name behindName)).leadingNewlines⟩,
    spelled, unresolved, left, fun left => ?_⟩
  rw [firstStatement?, Option.map_eq_some_iff]
  constructor
  · rintro ⟨⟨source, behindText⟩, given, same⟩
    obtain ⟨next, ran, rfl⟩ := outcome?_eq_some.mp given
    obtain ⟨first, here, declared, ended, readFirst, readOthers, closed, rfl⟩ :=
      (Grammar.statement_of_let_eq_ok faces second passed).mp ran
    rw [read] at readFirst
    obtain ⟨alone, leaves⟩ := Prod.mk.inj same
    exact ⟨next, ⟨first, here, declared, ended, readFirst, readOthers, closed,
      alone⟩, leaves⟩
  · rintro ⟨next, ⟨first, here, declared, ended, readFirst, readOthers, closed,
      alone⟩, leaves⟩
    rw [← read] at readFirst
    have ran := (Grammar.statement_of_let_eq_ok faces second passed).mpr
      ⟨first, here, declared, ended, readFirst, readOthers, closed, rfl⟩
    exact ⟨(_, next.rest), outcome?_eq_some.mpr ⟨next, ran, rfl⟩,
      Prod.ext alone leaves⟩

/-- A declaration without an annotation ends behind its name. -/
theorem firstStatement?_of_bare (word : isWord name = true)
    (free : isReserved name = false)
    (stops : behindName.takeWhile isNamePart = [])
    (noMark : (Cursor.mk 0 behindName).sees .not = false)
    (noColon : (Cursor.mk 0 behindName).sees .colon = false) :
    firstStatement? (declarationText name behindName) =
        some (.declaringAlone name, left) ↔
      ClosesDeclaration behindName left := by
  obtain ⟨nested, named, behind, start, place, spelled, unresolved, rfl, reads⟩ :=
    firstStatement?_of_name behindName word free stops
  have bare := Grammar.declarationRest_of_bare nested (.identifier named) start
    (show behind.sees .not = false from noMark) noColon
  rw [reads, closesDeclaration_iff, bare]
  refine exists_congr fun next => and_congr_left fun _ => ?_
  exact Grammar.declares_alone_iff nested start place spelled unresolved

/-- A declaration with an annotation ends behind the annotation. -/
theorem firstStatement?_of_typed {text : List Char}
    (word : isWord name = true) (free : isReserved name = false) :
    firstStatement? (declarationText name (':' :: ' ' :: text)) =
        some (.declaringAlone name, left) ↔
      ∃ middle, typeLeft? (' ' :: text) = some middle ∧
        ClosesDeclaration middle left := by
  obtain ⟨nested, named, behind, start, place, spelled, unresolved, standing,
    reads⟩ := firstStatement?_of_name (':' :: ' ' :: text) word free rfl
  have inside : (behind.advance 1).rest = ' ' :: text := by
    rw [Cursor.advance, standing]
    rfl
  rw [reads]
  simp only [Grammar.declarationRest_of_colon standing]
  constructor
  · rintro ⟨next, ⟨first, here, declared, ended, ⟨middle, annotated, read⟩,
      readOthers, closed, alone⟩, leaves⟩
    refine ⟨middle.rest, (typeLeft?_eq_some inside).mpr ⟨middle, annotated, rfl⟩,
      closesDeclaration_iff.mpr ⟨next, ?_, leaves⟩⟩
    exact (Grammar.declares_alone_iff nested start place spelled unresolved).mp
      ⟨first, here, declared, ended, read, readOthers, closed, alone⟩
  · rintro ⟨_, annotated, closes⟩
    obtain ⟨middle, skipped, rfl⟩ := (typeLeft?_eq_some inside).mp annotated
    obtain ⟨next, ends, leaves⟩ := closesDeclaration_iff.mp closes
    obtain ⟨first, here, declared, ended, read, others⟩ :=
      (Grammar.declares_alone_iff nested start place spelled unresolved).mpr ends
    exact ⟨next, ⟨first, here, declared, ended, ⟨middle, skipped, read⟩,
      others⟩, leaves⟩

end Texts

/-! ## Lines behind a declaration -/

/-- White space and comments with a line break, and a text behind them that
starts with a word, such as the keyword of a statement. -/
structure IsNextLine (gap tail : List Char) : Prop where
  trivia : triviaLength .between (gap ++ tail) = gap.length
  breaks : '\n' ∈ gap
  word : (wordAtFront? tail).isSome = true

namespace IsNextLine

variable {gap tail left : List Char}

theorem startsWord (line : IsNextLine gap tail) :
    ∃ first others, tail = first :: others ∧ isNameStart first = true := by
  have found := line.word
  cases tail with
  | nil => cases found
  | cons first others =>
      refine ⟨first, others, rfl, Decidable.byContradiction fun other => ?_⟩
      rw [wordAtFront?, if_neg other] at found
      cases found

theorem rest_tokenStart (line : IsNextLine gap tail) :
    (Cursor.mk 0 (gap ++ tail)).tokenStart.rest = tail := by
  rw [Cursor.tokenStart, Cursor.triviaCount, line.trivia]
  exact List.drop_left

/-- No punctuator comes next. -/
theorem sees_eq_false (line : IsNextLine gap tail) (mark : Punctuator) :
    (Cursor.mk 0 (gap ++ tail)).sees mark = false := by
  obtain ⟨first, others, starts, name⟩ := line.startsWord
  have text : startsText first = true := by
    rw [startsText, name, Bool.true_or]
  have none : (Cursor.mk 0 (gap ++ tail)).punctuator? = none := by
    rw [Cursor.punctuator?, line.rest_tokenStart, starts]
    exact atFront?_eq_none text
  rw [Cursor.sees, none]
  rfl

theorem newlineBefore (line : IsNextLine gap tail) :
    (Cursor.mk 0 (gap ++ tail)).newlineBefore = true := by
  have passed : (Cursor.mk 0 (gap ++ tail)).leadingNewlines =
      gap.count '\n' := by
    rw [Cursor.leadingNewlines, Cursor.triviaCount, line.trivia, List.take_left]
  rw [Cursor.newlineBefore, passed, decide_eq_true_iff]
  exact List.count_pos_iff.mpr line.breaks

/-- The line does not go on with a word in front of it. -/
theorem takeWhile_isNamePart (line : IsNextLine gap tail) :
    (gap ++ tail).takeWhile isNamePart = [] := by
  have trivia := line.trivia
  have breaks := line.breaks
  cases gap with
  | nil => cases breaks
  | cons first others =>
      refine List.takeWhile_cons_of_neg fun part => ?_
      have slash : first ≠ '/' := by
        rintro rfl
        exact absurd part (by decide)
      rw [List.cons_append,
        triviaLength_eq_zero (isSpace_of_isNamePart part) slash] at trivia
      cases trivia

/-- A declaration in front of the line ends there. -/
theorem closesDeclaration_iff (line : IsNextLine gap tail) :
    ClosesDeclaration (gap ++ tail) left ↔ gap ++ tail = left := by
  have ran : semicolon ⟨0, gap ++ tail⟩ = .ok ((), ⟨0, gap ++ tail⟩) := by
    rw [semicolon, bind_eat_of_unseen (line.sees_eq_false .semicolon),
      if_neg Bool.false_ne_true, bind_get, if_pos (by simp [line.newlineBefore])]
    rfl
  have standing : (Cursor.mk 0 (gap ++ tail)).rest = gap ++ tail := rfl
  have leaves : semicolon.left? (gap ++ tail) = some (gap ++ tail) :=
    (semicolon_left?_eq_some standing).mpr ⟨_, ran, rfl⟩
  constructor
  · rintro ⟨-, -, closed⟩
    rw [leaves] at closed
    exact Option.some.inj closed
  · rintro rfl
    exact ⟨line.sees_eq_false .assign, line.sees_eq_false .comma, leaves⟩

end IsNextLine

/-- A declaration ends at a semicolon. -/
theorem closesDeclaration_semicolon_iff {rest left : List Char} :
    ClosesDeclaration (';' :: rest) left ↔ rest = left := by
  have ran : semicolon ⟨0, ';' :: rest⟩ = .ok ((), ⟨1, rest⟩) := rfl
  have standing : (Cursor.mk 0 (';' :: rest)).rest = ';' :: rest := rfl
  have leaves : semicolon.left? (';' :: rest) = some rest :=
    (semicolon_left?_eq_some standing).mpr ⟨_, ran, rfl⟩
  constructor
  · rintro ⟨-, -, closed⟩
    rw [leaves] at closed
    exact Option.some.inj closed
  · rintro rfl
    exact ⟨rfl, rfl, leaves⟩

theorem not_mem_typeMarks_of_isWord {name : String} (word : isWord name = true) :
    ∀ character ∈ ' ' :: name.toList, character ∉ typeMarks := by
  intro character member
  rcases List.mem_cons.mp member with rfl | inside
  · decide
  · exact not_mem_typeMarks (isNamePart_of_isWord word character inside)

theorem toList_ne_nil_of_isWord {name : String} (word : isWord name = true) :
    name.toList ≠ [] := by
  obtain ⟨first, others, spelled, -⟩ := exists_of_isWord word
  rw [spelled]
  exact List.cons_ne_nil _ _

theorem declarationText_append (name typed : String) (rest : List Char) :
    ("let " ++ name ++ ": " ++ typed).toList ++ rest =
      declarationText name (':' :: ' ' :: (typed.toList ++ rest)) := by
  simp only [declarationText, String.toList_append, List.append_assoc]
  rfl

/-- At every place of a body, a declaration whose annotation is the name of a type
ends at a semicolon, and without the annotation it ends in front of the line
behind it.  With the annotation it does not end there: the annotation goes on
over that line, and the line is a statement of its own exactly if what the
annotation leaves of it is read as the same statements.  A line without brackets,
quotes, commas, equals signs and slashes is lost up to its semicolon. -/
theorem annotation_ends_at_line_break_iff (name typed : String)
    (gap tail : List Char) (word : isWord name = true)
    (free : isReserved name = false) (typeName : isWord typed = true)
    (line : IsNextLine gap tail) :
    (∀ body earlier,
      BodyReaches body earlier
          (("let " ++ name ++ ": " ++ typed).toList ++ ';' :: (gap ++ tail)) →
        bodyStatements? body = (bodyStatements? (gap ++ tail)).map
          fun statements => earlier ++ .declaringAlone name :: statements) ∧
    (∀ body earlier,
      BodyReaches body earlier (("let " ++ name).toList ++ (gap ++ tail)) →
        bodyStatements? body = (bodyStatements? (gap ++ tail)).map
          fun statements => earlier ++ .declaringAlone name :: statements) ∧
    (∀ body earlier statements,
      BodyReaches body earlier
          (("let " ++ name ++ ": " ++ typed).toList ++ (gap ++ tail)) →
        (bodyStatements? body =
            some (earlier ++ .declaringAlone name :: statements) ↔
          ∃ middle left, typeLeft? tail = some middle ∧
            ClosesDeclaration middle left ∧
            bodyStatements? left = some statements)) ∧
    ∀ body earlier lost behind,
      BodyReaches body earlier
          (("let " ++ name ++ ": " ++ typed).toList ++ (gap ++ tail)) →
        tail = lost ++ ';' :: behind →
        (∀ character ∈ lost, character ∉ typeMarks) →
          bodyStatements? body = (bodyStatements? behind).map
            fun statements => earlier ++ .declaringAlone name :: statements := by
  obtain ⟨first, others, starts, part⟩ := line.startsWord
  have firstPart : isNamePart first = true := by
    rw [isNamePart, part]
    rfl
  have annotated : typeLeft? (' ' :: (typed.toList ++ (gap ++ tail))) =
      typeLeft? tail :=
    typeLeft?_of_name (toList_ne_nil_of_isWord typeName)
      (isNamePart_of_isWord typeName) line.trivia starts firstPart
  have withFirst : ∀ {text left body earlier},
      BodyReaches body earlier (declarationText name text) →
        firstStatement? (declarationText name text) =
          some (.declaringAlone name, left) →
        bodyStatements? body = (bodyStatements? left).map
          fun statements => earlier ++ .declaringAlone name :: statements := by
    intro text left body earlier reaches found
    rw [reaches.bodyStatements?_eq,
      bodyStatements?_of_first continuesBody_declarationText found,
      Option.map_map]
    rfl
  refine ⟨fun body earlier reaches => ?_, fun body earlier reaches => ?_,
    fun body earlier statements reaches => ?_,
    fun body earlier lost behind reaches split plain => ?_⟩
  · rw [declarationText_append] at reaches
    have ended : typeLeft? (' ' :: typed.toList ++ ';' :: (gap ++ tail)) =
        some (';' :: (gap ++ tail)) :=
      typeLeft?_of_plain (not_mem_typeMarks_of_isWord typeName)
    exact withFirst reaches ((firstStatement?_of_typed word free).mpr
      ⟨_, ended, closesDeclaration_semicolon_iff.mpr rfl⟩)
  · have bare : ("let " ++ name).toList ++ (gap ++ tail) =
        declarationText name (gap ++ tail) := by
      simp [declarationText]
    rw [bare] at reaches
    exact withFirst reaches ((firstStatement?_of_bare word free
      line.takeWhile_isNamePart (line.sees_eq_false .not)
      (line.sees_eq_false .colon)).mpr (line.closesDeclaration_iff.mpr rfl))
  · rw [declarationText_append] at reaches
    rw [reaches.bodyStatements?_eq_append,
      bodyStatements?_eq_cons continuesBody_declarationText]
    simp only [firstStatement?_of_typed word free, annotated]
    constructor
    · rintro ⟨left, ⟨middle, skipped, closes⟩, given⟩
      exact ⟨middle, left, skipped, closes, given⟩
    · rintro ⟨middle, left, skipped, closes, given⟩
      exact ⟨left, ⟨middle, skipped, closes⟩, given⟩
  · rw [declarationText_append] at reaches
    have ended : typeLeft? tail = some (';' :: behind) := by
      rw [split]
      exact typeLeft?_of_plain plain
    exact withFirst reaches ((firstStatement?_of_typed word free).mpr
      ⟨_, annotated.trans ended, closesDeclaration_semicolon_iff.mpr rfl⟩)

/-- Whether the statements of a body are a single loop that counts. -/
def isCountingLoop : Option (List Statement) → Bool
  | some [.other .countingLoop ⟨⟨0, 0⟩, 0⟩] => true
  | _ => false

theorem eq_of_isCountingLoop (statements : Option (List Statement))
    (counting : isCountingLoop statements = true) :
    statements = some [.other .countingLoop ⟨⟨0, 0⟩, 0⟩] := by
  unfold isCountingLoop at counting
  split at counting
  · rfl
  · cases counting

/-- A line that is read as the same statement where the annotation takes a part of
its header, and a line that is lost. -/
theorem annotation_ends_at_line_break_iff_loop :
    bodyStatements? "let a: T\nfor (a > b; for (;;) /)/ + 1 /+ 1; \x7d".toList =
        bodyStatements? "let a: T;\nfor (a > b; for (;;) /)/ + 1 /+ 1; \x7d".toList ∧
      bodyStatements? "let a: T\nreturn 1; \x7d".toList =
        some [.declaringAlone "a"] := by
  constructor
  · obtain ⟨closed, -, annotated, -⟩ := annotation_ends_at_line_break_iff "a" "T"
      "\n".toList "for (a > b; for (;;) /)/ + 1 /+ 1; \x7d".toList
      (by decide) (by decide) (by decide)
      ⟨by decide, by decide, by decide⟩
    have single := eq_of_isCountingLoop (bodyStatements?
      ("\n".toList ++ "for (a > b; for (;;) /)/ + 1 /+ 1; \x7d".toList))
      (by decide +kernel)
    have behind := eq_of_isCountingLoop (bodyStatements?
      " for (;;) /)/ + 1 /+ 1; \x7d".toList) (by decide +kernel)
    rw [single] at closed
    have whole := closed _ [] (.start _)
    have same := (annotated _ [] _ (.start _)).mpr
      ⟨"; for (;;) /)/ + 1 /+ 1; \x7d".toList, _, by decide +kernel,
        closesDeclaration_semicolon_iff.mpr rfl, behind⟩
    exact same.trans whole.symm
  · obtain ⟨-, -, -, lost⟩ := annotation_ends_at_line_break_iff "a" "T"
      "\n".toList "return 1; \x7d".toList (by decide) (by decide) (by decide)
      ⟨by decide, by decide, by decide⟩
    have empty : bodyStatements? " \x7d".toList = some [] := by
      rfl
    have plain : ("return 1".toList.any fun character =>
        typeMarks.contains character) = false := by
      decide
    have read := lost _ [] "return 1".toList " \x7d".toList (.start _) (by decide)
      fun character inside member => List.any_eq_false.mp plain character inside
        (List.contains_iff_mem.mpr member)
    rw [empty] at read
    exact read

/-- A result behind an annotated declaration is lost without a sign of it; with a
semicolon in front of the line break it is there. -/
theorem result_is_lost_behind_annotation :
    let broken : SourceText :=
      ⟨"annotation.ts", "export function f() \x7b let a: string\nreturn 1; \x7d"⟩
    let closed : SourceText :=
      ⟨"annotation.ts", "export function f() \x7b let a: string;\nreturn 1; \x7d"⟩
    (bodyStatements? " let a: string\nreturn 1; \x7d".toList).map List.length =
        some 1 ∧
      (bodyStatements? " let a: string;\nreturn 1; \x7d".toList).map List.length =
        some 2 ∧
      (transpile .apigateway broken).diagnostics = [] ∧
      (transpile .apigateway broken).render {} = [("f", "## Function: f\n")] ∧
      (transpile .apigateway closed).diagnostics = [] ∧
      (transpile .apigateway closed).render {} = [("f", "## Function: f\n1")] := by
  decide +kernel

end VelocityScript.Script
