import VelocityScript.Proofs.Script.Bodies
import VelocityScript.Proofs.Script.Leading
import VelocityScript.Proofs.Script.Prefixing

/-!
# Where types end

A type annotation is skipped character by character, up to a character that ends
it outside of brackets.  No line break is among these, so an annotation goes on
over the words of the lines behind it.
-/

namespace VelocityScript.Script

namespace Parser

variable {State Result : Type} {round other : State → Parser (Round State Result)}
  {state following : State} {cursor here next : Cursor} {result : Result}

/-! ## Loops as runs of rounds -/

/-- The rounds of a loop from a state and a cursor to its result. -/
inductive Rounds (round : State → Parser (Round State Result)) :
    State → Cursor → Result → Cursor → Prop
  | finished {state : State} {cursor next : Cursor} {result : Result} :
      round state cursor = .ok (.finished result, next) →
        Rounds round state cursor result next
  | again {state following : State} {cursor here next : Cursor}
      {result : Result} : round state cursor = .ok (.again following, here) →
        Rounds round following here result next →
          Rounds round state cursor result next

theorem rounds_again_iff
    (ran : round state cursor = .ok (.again following, here)) :
    Rounds round state cursor result next ↔
      Rounds round following here result next := by
  constructor
  · intro rounds
    cases rounds with
    | finished ended =>
        rw [ran] at ended
        cases ended
    | again goesOn others =>
        rw [ran] at goesOn
        cases goesOn
        exact others
  · exact .again ran

/-- Only what the first round gives matters. -/
theorem rounds_congr {cursor twin : Cursor}
    (same : round state cursor = round state twin) :
    Rounds round state cursor result next ↔
      Rounds round state twin result next := by
  have transfer : ∀ {first second : Cursor},
      round state first = round state second →
        Rounds round state first result next →
          Rounds round state second result next := by
    intro first second equal rounds
    cases rounds with
    | finished ended => exact .finished (equal ▸ ended)
    | again goesOn others => exact .again (equal ▸ goesOn) others
  exact ⟨transfer same, transfer same.symm⟩

/-- Rounds that succeed in two loops are rounds of both. -/
theorem Rounds.mono (rounds : Rounds round state cursor result next)
    (step : ∀ state here outcome next, round state here = .ok (outcome, next) →
      other state here = .ok (outcome, next)) :
    Rounds other state cursor result next := by
  induction rounds with
  | finished ended => exact .finished (step _ _ _ _ ended)
  | again goesOn _ inductionHypothesis =>
      exact .again (step _ _ _ _ goesOn) inductionHypothesis

theorem Rounds.of_iterate {bound : Nat}
    (ran : iterate round bound state cursor = .ok (result, next)) :
    Rounds round state cursor result next := by
  induction bound generalizing state cursor with
  | zero => cases ran
  | succ bound inductionHypothesis =>
      rw [iterate, bind_eq_ok] at ran
      obtain ⟨outcome, between, ranRound, ranOn⟩ := ran
      cases outcome with
      | again following => exact .again ranRound (inductionHypothesis ranOn)
      | finished found =>
          cases ranOn
          exact .finished ranRound

theorem Rounds.exists_iterate (rounds : Rounds round state cursor result next) :
    ∃ bound, iterate round bound state cursor = .ok (result, next) := by
  induction rounds with
  | finished ended =>
      refine ⟨1, ?_⟩
      rw [iterate, bind_of_ok ended]
      rfl
  | again goesOn _ inductionHypothesis =>
      obtain ⟨bound, ran⟩ := inductionHypothesis
      refine ⟨bound + 1, ?_⟩
      rw [iterate, bind_of_ok goesOn]
      exact ran

/-- A larger bound changes nothing, unless the smaller one is exhausted. -/
theorem iterate_add (round : State → Parser (Round State Result))
    (more bound : Nat) :
    ∀ (state : State) (cursor : Cursor),
      iterate round (bound + more) state cursor =
          iterate round bound state cursor ∨
        ∃ error, iterate round bound state cursor = .error error ∧
          error.problem = .tooDeep := by
  induction bound with
  | zero =>
      intro state cursor
      exact Or.inr ⟨_, rfl, rfl⟩
  | succ bound inductionHypothesis =>
      intro state cursor
      have unfolded : ∀ continued : Round State Result → Parser Result,
          (round state >>= continued) cursor =
            (round state cursor).bind fun outcome =>
              continued outcome.1 outcome.2 := fun _ => rfl
      rw [Nat.add_right_comm, iterate, iterate, unfolded, unfolded]
      cases round state cursor with
      | error error => exact Or.inl rfl
      | ok outcome =>
          obtain ⟨outcome, here⟩ := outcome
          cases outcome with
          | again following => exact inductionHypothesis following here
          | finished found => exact Or.inl rfl

/-- Only what a parser gives at the cursor matters to how it runs there. -/
theorem runs_congr {text : List Char} {parser twin : Parser Result}
    {after : Result → Cursor → Prop} (same : parser cursor = twin cursor)
    (runs : Runs text parser cursor after) : Runs text twin cursor after := by
  unfold Runs at runs ⊢
  rw [← same]
  exact runs

/-- A loop that runs safely gives what its rounds lead to. -/
theorem repeating_eq_ok_iff {text : List Char} {after : Result → Cursor → Prop}
    (runs : Runs text (repeating state round) cursor after) :
    repeating state round cursor = .ok (result, next) ↔
      Rounds round state cursor result next := by
  have unfolded : repeating state round cursor =
      iterate round (cursor.rest.length + 1) state cursor := rfl
  unfold Runs at runs
  rw [unfolded] at runs ⊢
  refine ⟨.of_iterate, fun rounds => ?_⟩
  obtain ⟨bound, ran⟩ := rounds.exists_iterate
  rcases Nat.le_total bound (cursor.rest.length + 1) with below | above
  · obtain ⟨more, enough⟩ := Nat.exists_eq_add_of_le below
    rcases iterate_add round more bound state cursor with
      same | ⟨error, failed, -⟩
    · rw [enough, same, ran]
    · rw [ran] at failed
      cases failed
  · obtain ⟨more, enough⟩ := Nat.exists_eq_add_of_le above
    rcases iterate_add round more (cursor.rest.length + 1) state
      cursor with same | ⟨error, failed, deep⟩
    · rw [← same, ← enough, ran]
    · rw [failed] at runs
      exact (runs.bounded deep).elim

/-! ## Rounds of a type -/

theorem bind_get {Other : Type} {continued : Cursor → Parser Other} :
    (get >>= continued) cursor = continued cursor cursor :=
  rfl

/-- What a round does with the characters of a type that it has not quoted. -/
def typeToken (ending : TypeEnd) (start depth : Nat) (complete : Bool) :
    List Char → Parser (Round (Nat × Bool) Unit)
  | [] => do
      if depth = 0 ∧ complete then
        return .finished ()
      else
        failAt .unterminatedType (← spanFrom start)
  | '=' :: '>' :: _ => do
      skip 2
      return .again (depth, false)
  | character :: _ => do
      if character = '(' ∨ character = '[' ∨ character = '<' then
        skip 1
        return .again (depth + 1, false)
      else if character = '{' then
        if depth = 0 ∧ ending = .body ∧ complete then
          return .finished ()
        else
          skip 1
          return .again (depth + 1, false)
      else if character = ')' ∨ character = ']' ∨ character = '}' ∨
          character = '>' then
        if depth = 0 then
          return .finished ()
        else
          skip 1
          return .again (depth - 1, true)
      else if depth = 0 ∧
          (character = ',' ∨ character = ';' ∨ character = '=') then
        return .finished ()
      else
        skip 1
        return .again (depth, isNamePart character)

/-- What a round does in front of a token of a type. -/
def typeStep (ending : TypeEnd) (start depth : Nat) (complete : Bool) :
    Parser (Round (Nat × Bool) Unit) := do
  if ← skipQuoted then
    return .again (depth, true)
  else
    typeToken ending start depth complete (← get).rest

/-- One round of the loop that skips a type. -/
def typeRound (ending : TypeEnd) (start : Nat) :
    Nat × Bool → Parser (Round (Nat × Bool) Unit) := fun (depth, complete) => do
  let cursor ← get
  let goesOn :=
    cursor.sees .bitOr || cursor.sees .bitAnd || cursor.sees .dot
  if depth = 0 ∧ ending = .newline ∧ complete ∧ cursor.newlineBefore ∧
      !goesOn then
    return .finished ()
  else
    skipTrivia
    typeStep ending start depth complete

/-- The rounds that skip a type know where its first token stands. -/
theorem skipType_eq (ending : TypeEnd) (cursor : Cursor) :
    skipType ending cursor =
      repeating (0, false) (typeRound ending cursor.tokenStart.offset) cursor :=
  rfl

/-- The characters that mean more to a type than a name does. -/
def typeMarks : List Char :=
  ['(', ')', '[', ']', '{', '}', '<', '>', ',', ';', '=', '/', '"', '\'', '\x60']

/-- A round of an annotation starts at the next token, line breaks or not. -/
theorem typeRound_eq (start depth : Nat) (complete : Bool) (cursor : Cursor) :
    typeRound .token start (depth, complete) cursor =
      typeStep .token start depth complete cursor.tokenStart := by
  have skips : ¬ (depth = 0 ∧ TypeEnd.token = .newline ∧ complete = true ∧
      cursor.newlineBefore = true ∧
      (!(cursor.sees .bitOr || cursor.sees .bitAnd || cursor.sees .dot)) =
        true) := by
    rintro ⟨-, other, -⟩
    cases other
  have unfolded : typeRound .token start (depth, complete) cursor =
      (if depth = 0 ∧ TypeEnd.token = .newline ∧ complete = true ∧
            cursor.newlineBefore = true ∧
            (!(cursor.sees .bitOr || cursor.sees .bitAnd || cursor.sees .dot)) =
              true then
          return .finished ()
        else do
          skipTrivia
          typeStep .token start depth complete :
        Parser (Round (Nat × Bool) Unit)) cursor := rfl
  rw [unfolded, if_neg skips]
  rfl

/-- A parser that is another one runs like it. -/
theorem run_of_eq {parser : Parser Result} (twin : Parser Result)
    {outcome : Except SyntaxError (Result × Cursor)} (same : parser = twin)
    (ran : twin cursor = outcome) : parser cursor = outcome := by
  rw [same, ran]

theorem skipQuoted_of_plain {character : Char} {rest : List Char}
    (standing : cursor.rest = character :: rest)
    (plain : character ∉ typeMarks) : skipQuoted cursor = .ok (false, cursor) := by
  simp only [typeMarks, List.mem_cons, List.not_mem_nil, or_false, not_or] at plain
  have slash : '/' ≠ character := Ne.symm (by simp [plain])
  have quotes : ¬ (character = '"' ∨ character = '\'' ∨ character = '\x60') := by
    simp [plain]
  unfold skipQuoted
  rw [bind_get]
  refine run_of_eq (pure false) ?_ rfl
  split
  · next same => exact (slash (List.cons.inj (same ▸ standing)).1).elim
  · next same => exact (slash (List.cons.inj (same ▸ standing)).1).elim
  · next same =>
      obtain ⟨rfl, -⟩ := List.cons.inj (same.symm.trans standing)
      exact if_neg quotes
  · rfl

/-- A character that is no mark of a type is passed. -/
theorem typeStep_of_plain {start : Nat} {complete : Bool} {character : Char}
    {rest : List Char} (standing : cursor.rest = character :: rest)
    (plain : character ∉ typeMarks) :
    typeStep .token start 0 complete cursor =
      .ok (.again (0, isNamePart character), cursor.advance 1) := by
  rw [typeStep, bind_of_ok (skipQuoted_of_plain standing plain),
    if_neg Bool.false_ne_true, bind_get]
  simp only [typeMarks, List.mem_cons, List.not_mem_nil, or_false, not_or] at plain
  have equals : '=' ≠ character := Ne.symm (by simp [plain])
  refine run_of_eq (do skip 1; return .again (0, isNamePart character)) ?_ rfl
  unfold typeToken
  split
  · next same => exact (List.cons_ne_nil _ _ (standing.symm.trans same)).elim
  · next same => exact (equals (List.cons.inj (same ▸ standing)).1).elim
  · next same =>
      obtain ⟨rfl, -⟩ := List.cons.inj (same.symm.trans standing)
      rw [if_neg (by simp [plain]), if_neg (by simp [plain]),
        if_neg (by simp [plain]), if_neg (by simp [plain])]

theorem typeStep_of_semicolon {start : Nat} {complete : Bool}
    {rest : List Char} (standing : cursor.rest = ';' :: rest) :
    typeStep .token start 0 complete cursor = .ok (.finished (), cursor) := by
  obtain ⟨offset, text⟩ := cursor
  cases standing
  rfl

theorem not_mem_typeMarks {character : Char}
    (part : isNamePart character = true) : character ∉ typeMarks := by
  have others : typeMarks.any isNamePart = false := by
    decide
  exact fun member => List.any_eq_false.mp others character member part

theorem isSpace_of_isNamePart {character : Char}
    (part : isNamePart character = true) : isSpace character = false := by
  have codes : (spaceCodes.any fun code => isNamePart (Char.ofNat code)) =
      false := by
    decide +kernel
  exact isSpace_eq_false codes part

/-- In front of a token that starts with a visible character, no trivia stand. -/
theorem tokenStart_of_visible {character : Char} {rest : List Char}
    (standing : cursor.rest = character :: rest)
    (visible : isSpace character = false) (slash : character ≠ '/') :
    cursor.tokenStart = cursor := by
  have none : cursor.triviaCount = 0 := by
    rw [Cursor.triviaCount, standing]
    exact triviaLength_eq_zero visible slash
  rw [Cursor.tokenStart, none, Cursor.advance, List.take_zero, List.drop_zero]
  rfl

/-- A space in front of a token is passed with the trivia behind it. -/
theorem tokenStart_of_space {character : Char} {rest : List Char}
    (standing : cursor.rest = character :: rest)
    (space : isSpace character = true) :
    cursor.tokenStart = (cursor.advance 1).tokenStart := by
  obtain ⟨offset, text⟩ := cursor
  cases standing
  simp only [Cursor.tokenStart, Cursor.triviaCount, Cursor.advance,
    triviaLength_space rest space, List.take_succ_cons, List.drop_succ_cons,
    List.take_zero, List.drop_zero, byteLength, Nat.add_zero, Nat.add_assoc]

/-! ## Rounds over a text -/

section Annotations

variable {start : Nat} {complete : Bool} {rest : List Char}

/-- Rounds from a cursor are those from the token behind it. -/
theorem rounds_tokenStart_iff :
    Rounds (typeRound .token start) (0, complete) cursor () next ↔
      Rounds (typeRound .token start) (0, complete) cursor.tokenStart () next := by
  refine rounds_congr ?_
  rw [typeRound_eq, typeRound_eq, tokenStart_tokenStart]

theorem rounds_space_iff {character : Char}
    (standing : cursor.rest = character :: rest)
    (space : isSpace character = true) :
    Rounds (typeRound .token start) (0, complete) cursor () next ↔
      Rounds (typeRound .token start) (0, complete) (cursor.advance 1) () next := by
  refine rounds_congr ?_
  rw [typeRound_eq, typeRound_eq, tokenStart_of_space standing space]

theorem rounds_plain_iff {character : Char}
    (standing : cursor.rest = character :: rest)
    (visible : isSpace character = false) (plain : character ∉ typeMarks) :
    Rounds (typeRound .token start) (0, complete) cursor () next ↔
      Rounds (typeRound .token start) (0, isNamePart character)
        (cursor.advance 1) () next := by
  have slash : character ≠ '/' := by
    rintro rfl
    exact plain (by decide)
  refine rounds_again_iff ?_
  rw [typeRound_eq, tokenStart_of_visible standing visible slash,
    typeStep_of_plain standing plain]

/-- A type goes on behind the characters of a name. -/
theorem rounds_name_iff (start : Nat) (rest name : List Char) :
    ∀ (complete : Bool) (cursor : Cursor), name ≠ [] →
      (∀ character ∈ name, isNamePart character = true) →
      cursor.rest = name ++ rest →
        ∃ behind : Cursor, behind.rest = rest ∧ ∀ next,
          Rounds (typeRound .token start) (0, complete) cursor () next ↔
            Rounds (typeRound .token start) (0, true) behind () next := by
  induction name with
  | nil =>
      intro _ _ nonempty
      exact (nonempty rfl).elim
  | cons first others inductionHypothesis =>
      intro complete cursor _ parts standing
      obtain ⟨part, goesOn⟩ := List.forall_mem_cons.mp parts
      have passed : (cursor.advance 1).rest = others ++ rest := by
        rw [Cursor.advance, standing]
        rfl
      have step : ∀ next,
          Rounds (typeRound .token start) (0, complete) cursor () next ↔
            Rounds (typeRound .token start) (0, true) (cursor.advance 1) ()
              next := by
        intro next
        rw [rounds_plain_iff standing (isSpace_of_isNamePart part)
          (not_mem_typeMarks part), part]
      cases others with
      | nil => exact ⟨cursor.advance 1, passed, step⟩
      | cons second more =>
          obtain ⟨behind, standingBehind, further⟩ := inductionHypothesis true
            (cursor.advance 1) (List.cons_ne_nil _ _) goesOn passed
          exact ⟨behind, standingBehind, fun next => (step next).trans (further next)⟩

/-- A type goes on behind a text without marks, up to a semicolon. -/
theorem rounds_plain (start : Nat) (line : List Char) :
    ∀ (complete : Bool) (cursor : Cursor),
      (∀ character ∈ line, character ∉ typeMarks) →
      cursor.rest = line ++ ';' :: rest →
        ∃ next : Cursor, next.rest = ';' :: rest ∧
          Rounds (typeRound .token start) (0, complete) cursor () next := by
  induction line with
  | nil =>
      intro complete cursor _ standing
      refine ⟨cursor, standing, .finished ?_⟩
      rw [typeRound_eq, tokenStart_of_visible standing (by decide) (by decide),
        typeStep_of_semicolon standing]
  | cons first others inductionHypothesis =>
      intro complete cursor plain standing
      obtain ⟨here, further⟩ := List.forall_mem_cons.mp plain
      have passed : (cursor.advance 1).rest = others ++ ';' :: rest := by
        rw [Cursor.advance, standing]
        rfl
      cases space : isSpace first with
      | true =>
          obtain ⟨next, left, rounds⟩ := inductionHypothesis complete
            (cursor.advance 1) further passed
          exact ⟨next, left, (rounds_space_iff standing space).mpr rounds⟩
      | false =>
          obtain ⟨next, left, rounds⟩ := inductionHypothesis (isNamePart first)
            (cursor.advance 1) further passed
          exact ⟨next, left, (rounds_plain_iff standing space here).mpr rounds⟩

end Annotations

/-! ## The text behind an annotation -/

/-- What a parser leaves of a text. -/
def left? (parser : Parser Unit) (text : List Char) : Option (List Char) :=
  (parser.outcome? ⟨0, text⟩).map Prod.snd

/-- Where the text stands does not matter. -/
theorem left?_eq_some {parser echo : Parser Unit} {text left : List Char}
    {after : Unit → Cursor → Prop} (standing : cursor.rest = text)
    (repeats : Repeats cursor.offset id parser echo ⟨0, text⟩
      (Cursor.shift cursor.offset ⟨0, text⟩))
    (runs : Runs text parser ⟨0, text⟩ after) :
    parser.left? text = some left ↔
      ∃ next, echo cursor = .ok ((), next) ∧ next.rest = left := by
  cases standing
  have outcome : echo.outcome? cursor = parser.outcome? ⟨0, cursor.rest⟩ := by
    rw [outcome?_of_repeats repeats runs]
    exact Option.map_id'
  rw [left?, ← outcome, Option.map_eq_some_iff]
  constructor
  · rintro ⟨⟨_, _⟩, found, rfl⟩
    exact outcome?_eq_some.mp found
  · rintro ⟨next, ran, rfl⟩
    exact ⟨_, outcome?_eq_some.mpr ⟨next, ran, rfl⟩, rfl⟩

/-- What an annotation leaves of a text. -/
def typeLeft? : List Char → Option (List Char) :=
  (skipType .token).left?

theorem typeLeft?_eq_some {text left : List Char} (standing : cursor.rest = text) :
    typeLeft? text = some left ↔
      ∃ next, skipType .token cursor = .ok ((), next) ∧ next.rest = left :=
  left?_eq_some standing (repeats_skipType .token) (reads_skipType (.refl _))

theorem semicolon_left?_eq_some {text left : List Char}
    (standing : cursor.rest = text) :
    semicolon.left? text = some left ↔
      ∃ next, semicolon cursor = .ok ((), next) ∧ next.rest = left :=
  left?_eq_some standing repeats_semicolon (reads_semicolon (.refl _))

theorem skipType_eq_ok_iff :
    skipType .token cursor = .ok ((), next) ↔
      Rounds (typeRound .token cursor.tokenStart.offset) (0, false) cursor ()
        next := by
  rw [skipType_eq]
  exact repeating_eq_ok_iff (runs_congr (skipType_eq .token cursor)
    (reads_skipType cursor.standsIn_padding))

/-- A step that succeeds does not depend on the start of the type. -/
theorem typeToken_restart {start : Nat} (later : Nat) {depth : Nat}
    {complete : Bool} {outcome : Round (Nat × Bool) Unit} {text : List Char}
    (ran : typeToken .token start depth complete text cursor =
      .ok (outcome, next)) :
    typeToken .token later depth complete text cursor = .ok (outcome, next) := by
  cases text with
  | nil =>
      have unfolded : ∀ start, typeToken .token start depth complete [] =
          (if depth = 0 ∧ complete = true then
              return .finished ()
            else do
              failAt .unterminatedType (← spanFrom start) :
            Parser (Round (Nat × Bool) Unit)) := fun _ => rfl
      rw [unfolded] at ran ⊢
      by_cases ends : depth = 0 ∧ complete = true
      · rw [if_pos ends] at ran ⊢
        exact ran
      · rw [if_neg ends] at ran
        cases ran
  | cons first others =>
      have same : typeToken .token start depth complete (first :: others) =
          typeToken .token later depth complete (first :: others) := by
        unfold typeToken
        split
        · contradiction
        · rfl
        · rfl
      exact (congrFun same cursor).symm.trans ran

theorem typeStep_restart {start : Nat} (later : Nat) {depth : Nat}
    {complete : Bool} {outcome : Round (Nat × Bool) Unit}
    (ran : typeStep .token start depth complete cursor = .ok (outcome, next)) :
    typeStep .token later depth complete cursor = .ok (outcome, next) := by
  rw [typeStep, bind_eq_ok] at ran ⊢
  obtain ⟨quoted, here, skipped, goesOn⟩ := ran
  refine ⟨quoted, here, skipped, ?_⟩
  cases quoted with
  | true => exact goesOn
  | false => exact typeToken_restart later goesOn

/-- Where the rounds of an annotation start does not matter to those that
succeed. -/
theorem Rounds.restart {start : Nat} (later : Nat) {state : Nat × Bool}
    (rounds : Rounds (typeRound .token start) state cursor () next) :
    Rounds (typeRound .token later) state cursor () next := by
  refine rounds.mono fun state here outcome next ran => ?_
  obtain ⟨depth, complete⟩ := state
  have stepped := (typeRound_eq start depth complete here).symm.trans ran
  exact (typeRound_eq later depth complete here).trans
    (typeStep_restart later stepped)

/-- What an annotation leaves is what its rounds do, wherever these start. -/
theorem typeLeft?_eq_some_iff_rounds {text left : List Char} (start : Nat)
    (standing : cursor.rest = text) :
    typeLeft? text = some left ↔
      ∃ next, Rounds (typeRound .token start) (0, false) cursor () next ∧
        next.rest = left := by
  rw [typeLeft?_eq_some standing]
  refine exists_congr fun next => and_congr_left fun _ => ?_
  rw [skipType_eq_ok_iff]
  exact ⟨Rounds.restart _, Rounds.restart _⟩

/-- An annotation without marks ends at the semicolon behind it. -/
theorem typeLeft?_of_plain {line rest : List Char}
    (plain : ∀ character ∈ line, character ∉ typeMarks) :
    typeLeft? (line ++ ';' :: rest) = some (';' :: rest) := by
  have standing : (Cursor.mk 0 (line ++ ';' :: rest)).rest =
      line ++ ';' :: rest := rfl
  obtain ⟨next, left, rounds⟩ := rounds_plain 0 line false _ plain standing
  exact (typeLeft?_eq_some_iff_rounds 0 standing).mpr ⟨next, rounds, left⟩

/-- An annotation does not end behind a name that a line break follows, but where
a type that starts on the next line does. -/
theorem typeLeft?_of_name {name gap tail : List Char} {first : Char}
    {others : List Char} (nonempty : name ≠ [])
    (parts : ∀ character ∈ name, isNamePart character = true)
    (trivia : triviaLength .between (gap ++ tail) = gap.length)
    (starts : tail = first :: others) (part : isNamePart first = true) :
    typeLeft? (' ' :: (name ++ (gap ++ tail))) = typeLeft? tail := by
  have standing : (Cursor.mk 0 (' ' :: (name ++ (gap ++ tail)))).rest =
      ' ' :: (name ++ (gap ++ tail)) := rfl
  obtain ⟨behind, standingBehind, passed⟩ := rounds_name_iff
    0 (gap ++ tail) name false
    ((Cursor.mk 0 (' ' :: (name ++ (gap ++ tail)))).advance 1) nonempty parts rfl
  have token : behind.tokenStart.rest = tail := by
    rw [Cursor.tokenStart, Cursor.triviaCount, standingBehind, trivia,
      Cursor.advance, standingBehind]
    exact List.drop_left
  have visible := isSpace_of_isNamePart part
  have plain := not_mem_typeMarks part
  refine Option.ext fun left => ?_
  rw [typeLeft?_eq_some_iff_rounds 0 standing,
    typeLeft?_eq_some_iff_rounds 0 token]
  refine exists_congr fun next => and_congr_left fun _ => ?_
  rw [rounds_space_iff standing rfl, passed, rounds_tokenStart_iff,
    rounds_plain_iff (token.trans starts) visible plain,
    rounds_plain_iff (token.trans starts) visible plain]

end Parser

end VelocityScript.Script
