import VelocityScript.Proofs.Script.ShiftedStatements
import VelocityScript.Proofs.Script.Delivering
import VelocityScript.Proofs.Script.SafeStatements
import VelocityScript.Proofs.Script.Composition

/-!
# Bodies up to places

A body of a function is read one statement after the other.  What a statement
is depends on the text ahead only, and not on where that text stands, apart from
the spans and the line breaks that the statement keeps.  So the statements of a
body, up to these, are a function of its text.
-/

namespace VelocityScript.Script

/-! ## Statements up to places -/

def Placement.joined (placement : Placement) : Placement :=
  { placement with leadingNewlines := 0 }

mutual

/-- A statement without the line breaks in front of its parts. -/
def Statement.joined : Statement → Statement
  | .block statements placement =>
      .block (joinedStatements statements) placement.joined
  | .expression evaluated placement => .expression evaluated placement.joined
  | .branch condition consequent alternative placement =>
      .branch condition consequent.joined (joinedAlternative alternative)
        placement.joined
  | .loop header iterable body placement =>
      .loop header iterable body.joined placement.joined
  | .result returned placement => .result returned placement.joined
  | .declarations keyword declared placement =>
      .declarations keyword declared placement.joined
  | .other kind placement => .other kind placement.joined

def joinedStatements : List Statement → List Statement
  | [] => []
  | statement :: others => statement.joined :: joinedStatements others

def joinedAlternative : Option Statement → Option Statement
  | none => none
  | some statement => some statement.joined

end

/-- A statement up to where it stands and to the line breaks in it. -/
def Statement.unplaced (source : Statement) : Statement :=
  (source.relocate fun _ => ⟨0, 0⟩).joined

theorem unplaced_relocate (move : Span → Span) (source : Statement) :
    (source.relocate move).unplaced = source.unplaced := by
  rw [Statement.unplaced, relocate_relocate]
  rfl

/-! ## The front of a text -/

namespace Parser

variable {Result : Type} {parser echo : Parser Result} {cursor : Cursor}
  {move : Result → Result} {after : Result → Cursor → Prop}

/-- What a parser gives at a cursor, and the text that it leaves. -/
def outcome? (parser : Parser Result) (cursor : Cursor) :
    Option (Result × List Char) :=
  match parser cursor with
  | .ok (result, next) => some (result, next.rest)
  | .error _ => none

theorem outcome?_eq_some {found : Result} {left : List Char} :
    parser.outcome? cursor = some (found, left) ↔
      ∃ next, parser cursor = .ok (found, next) ∧ next.rest = left := by
  unfold outcome?
  cases parser cursor with
  | error error => simp
  | ok outcome =>
      obtain ⟨result, next⟩ := outcome
      simp [and_assoc]

theorem eat_of_sees {mark : Punctuator} (seen : cursor.sees mark = true) :
    eat mark cursor =
      .ok (true, cursor.tokenStart.advance mark.characters.length) := by
  have unfolded : eat mark cursor =
      (if cursor.sees mark = true then do
          set (cursor.tokenStart.advance mark.characters.length)
          return true
        else return false : Parser Bool) cursor := rfl
  rw [unfolded, if_pos seen]
  rfl

/-- A parser that runs safely at the start of a text gives the same where the
text stands further on. -/
theorem outcome?_of_repeats {text : List Char}
    (repeats : Repeats cursor.offset move parser echo ⟨0, cursor.rest⟩
      (Cursor.shift cursor.offset ⟨0, cursor.rest⟩))
    (runs : Runs text parser ⟨0, cursor.rest⟩ after) :
    echo.outcome? cursor = (parser.outcome? ⟨0, cursor.rest⟩).map fun outcome =>
      (move outcome.1, outcome.2) := by
  have here : Cursor.shift cursor.offset ⟨0, cursor.rest⟩ = cursor := by
    rw [Cursor.shift, Nat.zero_add]
  rw [here] at repeats
  unfold Repeats Echoes at repeats
  unfold Runs at runs
  unfold outcome?
  cases ran : parser ⟨0, cursor.rest⟩ with
  | ok outcome =>
      rw [ran] at repeats
      obtain ⟨found, final, echoed, rfl, rfl⟩ := repeats
      rw [echoed]
      rfl
  | error error =>
      rw [ran] at repeats runs
      rcases repeats with deep | failed
      · exact (runs.bounded deep).elim
      · rw [failed]
        rfl

end Parser

open VelocityScript.Script.Parser

/-! ## The statements of a body -/

/-- The first statement of a text, and the text behind it. -/
def firstStatement? (text : List Char) : Option (Statement × List Char) :=
  ((Nested.ofDepth (text.length + 2)).statement.outcome? ⟨0, text⟩).map
    fun outcome => (outcome.1.unplaced, outcome.2)

theorem reads_firstStatement (text : List Char) :
    Reads text 1 (Nested.ofDepth (text.length + 2)).statement ⟨0, text⟩ :=
  (Nested.ofDepth_safe text _).statement ⟨0, text⟩ (Cursor.Moves.refl _)
    (Nat.lt_succ_self _)

/-- A statement is the same wherever its text stands, and at every depth that
suffices. -/
theorem firstStatement?_eq {depth : Nat} {cursor : Cursor}
    (enough : cursor.rest.length + 1 < depth) :
    firstStatement? cursor.rest =
      ((Nested.ofDepth depth).statement.outcome? cursor).map fun outcome =>
        (outcome.1.unplaced, outcome.2) := by
  obtain ⟨more, rfl⟩ := Nat.exists_eq_add_of_le (Nat.succ_le_of_lt enough)
  have echoes := Nested.ofDepth_echoes cursor.offset (cursor.rest.length + 2)
    more
  rw [outcome?_of_repeats (echoes.statement ⟨0, cursor.rest⟩ _
    (Cursor.aligned_shift _ _)) (reads_firstStatement cursor.rest),
    Option.map_map, firstStatement?]
  refine Option.map_congr fun outcome _ => ?_
  rw [Function.comp_apply, unplaced_relocate]

/-- A statement takes a character at least. -/
theorem length_lt_of_firstStatement? {text left : List Char}
    {first : Statement} (found : firstStatement? text = some (first, left)) :
    left.length < text.length := by
  obtain ⟨⟨read, behind⟩, given, same⟩ := Option.map_eq_some_iff.mp found
  obtain ⟨next, ran, rfl⟩ := outcome?_eq_some.mp given
  have reads := reads_firstStatement text
  unfold Reads Runs at reads
  rw [ran] at reads
  cases same
  exact reads.length_le

/-- Whether a body goes on with a statement. -/
def ContinuesBody (text : List Char) : Prop :=
  (Cursor.mk 0 text).sees .closeBrace = false ∧
    (Cursor.mk 0 text).atEnd = false

/-- The statements that are read in a body, one after the other, and the text
that is left then. -/
inductive BodyReaches : List Char → List Statement → List Char → Prop
  | start (text : List Char) : BodyReaches text [] text
  | further {text between left : List Char} {first : Statement}
      {others : List Statement} : ContinuesBody text →
        firstStatement? text = some (first, between) →
        BodyReaches between others left →
          BodyReaches text (first :: others) left

theorem BodyReaches.concat {text between left : List Char}
    {earlier : List Statement} {last : Statement}
    (reaches : BodyReaches text earlier between)
    (continues : ContinuesBody between)
    (found : firstStatement? between = some (last, left)) :
    BodyReaches text (earlier ++ [last]) left := by
  induction reaches with
  | start text => exact .further continues found (.start left)
  | further earlier first _ inductionHypothesis =>
      exact .further earlier first (inductionHypothesis continues found)

/-- One round of the loop over the statements of a body. -/
def bodyRound (nested : Nested) (statements : List Statement) :
    Parser (Round (List Statement) (List Statement)) := do
  if ← eat .closeBrace then
    return .finished statements
  else
    let cursor ← get
    if cursor.atEnd then
      failAt (.unclosed '{') ⟨0, cursor.endOffset⟩
    else
      return .again (statements ++ [← nested.statement])

/-- The statements of a body, given by the text behind its opening brace. -/
def bodyStatements? (text : List Char) : Option (List Statement) :=
  ((Grammar.block (Nested.ofDepth (text.length + 3))).outcome?
      ⟨0, '{' :: text⟩).map
    fun outcome => outcome.1.statements.map Statement.unplaced

theorem block_eq_loop (nested : Nested) (text : List Char) :
    Grammar.block nested ⟨0, '{' :: text⟩ =
      (do
        let statements ← repeating [] (bodyRound nested)
        return (⟨statements, ← spanFrom 0⟩ : Block)) ⟨1, text⟩ :=
  rfl

theorem bodyStatements?_eq_loop (text : List Char) :
    bodyStatements? text =
      ((repeating [] (bodyRound (Nested.ofDepth (text.length + 3)))).outcome?
        ⟨1, text⟩).map fun outcome => outcome.1.map Statement.unplaced := by
  rw [bodyStatements?, outcome?, outcome?, block_eq_loop]
  cases ran : repeating [] (bodyRound (Nested.ofDepth (text.length + 3)))
      ⟨1, text⟩ with
  | error error =>
      have fails : Fails (repeating []
          (bodyRound (Nested.ofDepth (text.length + 3)))) ⟨1, text⟩ :=
        ⟨error, ran⟩
      obtain ⟨found, failed⟩ := fails.bind
      rw [failed]
      rfl
  | ok outcome =>
      rw [bind_of_ok ran]
      rfl

section Rounds

variable {nested : Nested} {statements : List Statement} {cursor : Cursor}

theorem bodyRound_of_closed (closed : cursor.sees .closeBrace = true) :
    bodyRound nested statements cursor =
      .ok (.finished statements, cursor.tokenStart.advance 1) := by
  rw [bodyRound, bind_of_ok (eat_of_sees closed)]
  rfl

/-- Where a body goes on, a round reads a statement. -/
theorem bodyRound_of_continues (continues : ContinuesBody cursor.rest) :
    bodyRound nested statements cursor =
      (do return .again (statements ++ [← nested.statement]) :
        Parser (Round (List Statement) (List Statement))) cursor := by
  obtain ⟨unclosed, unended⟩ := continues
  have unfolded : bodyRound nested statements cursor =
      (if cursor.atEnd = true then
          failAt (.unclosed '{') ⟨0, cursor.endOffset⟩
        else do
          return .again (statements ++ [← nested.statement]) :
        Parser (Round (List Statement) (List Statement))) cursor :=
    bind_eat_of_unseen unclosed
  have standing : cursor.atEnd = false := unended
  rw [unfolded, standing]
  rfl

/-- A round that succeeds ends the body or reads a statement. -/
theorem bodyRound_cases {next : Cursor}
    {outcome : Round (List Statement) (List Statement)}
    (ran : bodyRound nested statements cursor = .ok (outcome, next)) :
    (cursor.sees .closeBrace = true ∧ outcome = .finished statements) ∨
      ContinuesBody cursor.rest ∧ ∃ read,
        nested.statement cursor = .ok (read, next) ∧
          outcome = .again (statements ++ [read]) := by
  cases closed : cursor.sees .closeBrace with
  | true =>
      rw [bodyRound_of_closed closed] at ran
      cases ran
      exact Or.inl ⟨rfl, rfl⟩
  | false =>
      cases ended : cursor.atEnd with
      | true =>
          have unfolded : bodyRound nested statements cursor =
              (if cursor.atEnd = true then
                  failAt (.unclosed '{') ⟨0, cursor.endOffset⟩
                else do
                  return .again (statements ++ [← nested.statement]) :
                Parser (Round (List Statement) (List Statement))) cursor :=
            bind_eat_of_unseen closed
          rw [unfolded, ended] at ran
          cases ran
      | false =>
          rw [bodyRound_of_continues ⟨closed, ended⟩] at ran
          obtain ⟨read, between, readHere, same⟩ := bind_eq_ok.mp ran
          cases same
          exact Or.inr ⟨⟨closed, ended⟩, read, readHere, rfl⟩

end Rounds

/-- What the loop over the statements of a body gives has been read. -/
theorem BodyReaches.of_loop {depth : Nat} {text : List Char} {cursor next : Cursor}
    {statements : List Statement} (standing : cursor.rest = text)
    (enough : text.length + 1 < depth)
    (ran : repeating [] (bodyRound (Nested.ofDepth depth)) cursor =
      .ok (statements, next)) :
    ∃ left, BodyReaches text (statements.map Statement.unplaced) left ∧
      (Cursor.mk 0 left).sees .closeBrace = true := by
  refine repeating_satisfies
    (fun statements here => here.rest.length ≤ text.length ∧
      BodyReaches text (statements.map Statement.unplaced) here.rest)
    (fun found _ => ∃ left,
      BodyReaches text (found.map Statement.unplaced) left ∧
        (Cursor.mk 0 left).sees .closeBrace = true)
    ?_ ⟨Nat.le_of_eq (congrArg List.length standing), standing ▸ .start _⟩ ran
  rintro earlier here outcome following ⟨short, reaches⟩ ranRound
  rcases bodyRound_cases ranRound with
    ⟨closed, rfl⟩ | ⟨continues, read, ranHere, rfl⟩
  · exact ⟨here.rest, reaches, closed⟩
  · have found : firstStatement? here.rest =
        some (read.unplaced, following.rest) := by
      have deep : here.rest.length + 1 < depth := by omega
      rw [firstStatement?_eq deep, outcome?_eq_some.mpr ⟨following, ranHere, rfl⟩]
      rfl
    have shorter := length_lt_of_firstStatement? found
    refine ⟨by omega, ?_⟩
    rw [List.map_append]
    exact reaches.concat continues found

/-- What is read in a body is what the loop over its statements gives. -/
theorem BodyReaches.loops {depth : Nat} {text left : List Char}
    {statements : List Statement} (reaches : BodyReaches text statements left)
    (closed : (Cursor.mk 0 left).sees .closeBrace = true) :
    ∀ (cursor : Cursor) (earlier : List Statement), cursor.rest = text →
      text.length + 1 < depth →
        Loops (bodyRound (Nested.ofDepth depth)) earlier cursor
          (fun found => found.map Statement.unplaced =
            earlier.map Statement.unplaced ++ statements)
          ((Cursor.mk 0 left).tokenStart.advance 1).rest := by
  induction reaches with
  | start text =>
      rintro cursor earlier rfl _
      refine loops_finished ⟨_, _, bodyRound_of_closed closed,
        ⟨earlier, rfl, ?_⟩, rfl⟩
      rw [List.append_nil]
  | @further text between left first others continues found _
      inductionHypothesis =>
      rintro cursor earlier rfl enough
      have shorter := length_lt_of_firstStatement? found
      rw [firstStatement?_eq enough, Option.map_eq_some_iff] at found
      obtain ⟨⟨read, behind⟩, given, same⟩ := found
      obtain ⟨next, ran, rfl⟩ := outcome?_eq_some.mp given
      cases same
      have goesOn : Delivers (bodyRound (Nested.ofDepth depth) earlier) cursor
          (fun outcome => ∃ following, outcome = .again following ∧
            following = earlier ++ [read]) next.rest := by
        rw [Delivers, bodyRound_of_continues continues, bind_of_ok ran]
        exact ⟨_, _, rfl, ⟨_, rfl, rfl⟩, rfl⟩
      refine loops_again goesOn shorter ?_
      rintro _ here rfl standing
      refine (inductionHypothesis closed here _ standing (by omega)).mono ?_
      intro given same
      rw [same, List.map_append, List.append_assoc]
      rfl

/-- The statements of a body are those that are read one after the other up to
its closing brace. -/
theorem bodyStatements?_eq_some {text : List Char} {statements : List Statement} :
    bodyStatements? text = some statements ↔
      ∃ left, BodyReaches text statements left ∧
        (Cursor.mk 0 left).sees .closeBrace = true := by
  rw [bodyStatements?_eq_loop, Option.map_eq_some_iff]
  constructor
  · rintro ⟨⟨found, behind⟩, given, rfl⟩
    obtain ⟨next, ran, -⟩ := outcome?_eq_some.mp given
    exact BodyReaches.of_loop rfl (by omega) ran
  · rintro ⟨left, reaches, closed⟩
    have deep : text.length + 1 < text.length + 3 := by omega
    have loops := reaches.loops closed ⟨1, text⟩ [] rfl deep
    obtain ⟨found, next, ran, same, -⟩ := loops.delivers
    exact ⟨_, outcome?_eq_some.mpr ⟨next, ran, rfl⟩, same⟩

/-- A body that goes on has a first statement and further ones. -/
theorem bodyStatements?_eq_cons {text : List Char} {first : Statement}
    {others : List Statement} (continues : ContinuesBody text) :
    bodyStatements? text = some (first :: others) ↔
      ∃ left, firstStatement? text = some (first, left) ∧
        bodyStatements? left = some others := by
  simp only [bodyStatements?_eq_some]
  constructor
  · rintro ⟨last, reaches, closed⟩
    cases reaches with
    | further _ found reaches => exact ⟨_, found, last, reaches, closed⟩
  · rintro ⟨left, found, last, reaches, closed⟩
    exact ⟨last, .further continues found reaches, closed⟩

/-- A body that goes on is not empty. -/
theorem bodyStatements?_ne_nil {text : List Char} (continues : ContinuesBody text) :
    bodyStatements? text ≠ some [] := by
  intro given
  obtain ⟨last, reaches, closed⟩ := bodyStatements?_eq_some.mp given
  cases reaches
  rw [continues.1] at closed
  cases closed

theorem bodyStatements?_of_first {text left : List Char} {first : Statement}
    (continues : ContinuesBody text)
    (found : firstStatement? text = some (first, left)) :
    bodyStatements? text = (bodyStatements? left).map (first :: ·) := by
  refine Option.ext fun statements => ?_
  cases statements with
  | nil => simp [bodyStatements?_ne_nil continues]
  | cons second others =>
      rw [bodyStatements?_eq_cons continues, found, Option.map_eq_some_iff]
      constructor
      · rintro ⟨_, same, given⟩
        cases same
        exact ⟨others, given, rfl⟩
      · rintro ⟨_, given, same⟩
        cases same
        exact ⟨left, rfl, given⟩

/-- The statements of a body are those in front of a place, and those behind
it. -/
theorem BodyReaches.bodyStatements?_eq {text left : List Char}
    {earlier : List Statement} (reaches : BodyReaches text earlier left) :
    bodyStatements? text = (bodyStatements? left).map (earlier ++ ·) := by
  induction reaches with
  | start text => simp
  | further continues found _ inductionHypothesis =>
      rw [bodyStatements?_of_first continues found, inductionHypothesis,
        Option.map_map]
      rfl

/-- The statements of a body end with some exactly if those behind the place are
these. -/
theorem BodyReaches.bodyStatements?_eq_append {text left : List Char}
    {earlier statements : List Statement} (reaches : BodyReaches text earlier left) :
    bodyStatements? text = some (earlier ++ statements) ↔
      bodyStatements? left = some statements := by
  rw [reaches.bodyStatements?_eq, Option.map_eq_some_iff]
  constructor
  · rintro ⟨found, given, same⟩
    rw [given, List.append_cancel_left same]
  · intro given
    exact ⟨statements, given, rfl⟩

end VelocityScript.Script
