import VelocityScript.Proofs.Script.Nodes
import VelocityScript.Proofs.Script.SafeStatements

/-!
# Where parsers lead

A parser that succeeds at a cursor leads to a result and to a later cursor.  A
parser lays nodes if it passes a token and the nodes of its result stand
between the start of that token and the cursor it leads to.
-/

namespace VelocityScript.Script

open Cursor (Moves)

/-- The second cursor is reached over the next token. -/
abbrev Cursor.Passes (cursor next : Cursor) : Prop :=
  Moves 1 cursor.tokenStart next

/-- The second cursor is the first one, or is reached over the next token. -/
def Cursor.Reaches (cursor next : Cursor) : Prop :=
  next = cursor ∨ cursor.Passes next

namespace Cursor.Passes

variable {count : Nat} {cursor here next : Cursor}

theorem moves (passes : cursor.Passes next) : Moves 1 cursor next :=
  cursor.moves_tokenStart.onTo passes

theorem after (passes : here.Passes next) (moved : Moves count cursor here) :
    Moves 1 cursor next :=
  moved.onTo passes.moves

end Cursor.Passes

namespace Cursor.Reaches

variable {cursor here next : Cursor}

theorem refl (cursor : Cursor) : cursor.Reaches cursor :=
  Or.inl rfl

theorem moves (reaches : cursor.Reaches next) : Moves 0 cursor next := by
  rcases reaches with rfl | passes
  · exact .refl _
  · exact passes.moves.reaches

/-- Passing a token later passes the next one. -/
theorem passes (reaches : cursor.Reaches here) (passes : here.Passes next) :
    cursor.Passes next := by
  rcases reaches with rfl | earlier
  · exact passes
  · exact earlier.further passes.moves

/-- The token that comes next later does not stand earlier. -/
theorem offset_le (reaches : cursor.Reaches here) :
    cursor.tokenStart.offset ≤ here.tokenStart.offset := by
  rcases reaches with rfl | earlier
  · exact Nat.le_refl _
  · exact Nat.le_trans earlier.offset_le here.moves_tokenStart.offset_le

end Cursor.Reaches

theorem Cursor.StandsIn.atToken {text : List Char} {cursor : Cursor}
    (stands : cursor.StandsIn text) : cursor.tokenStart.StandsIn text :=
  stands.after cursor.moves_tokenStart

namespace Parser

variable {text : List Char} {Result Other State : Type} {cursor : Cursor}
  {parser : Parser Result} {after : Result → Cursor → Prop}

/-- Where a parser succeeds at a cursor, its result and the cursor it leads to
satisfy a condition. -/
def Leads (parser : Parser Result) (cursor : Cursor)
    (after : Result → Cursor → Prop) : Prop :=
  ∀ result next, parser cursor = .ok (result, next) → after result next

/-- What is known of a parser that runs safely holds where it succeeds. -/
theorem Runs.leads (runs : Runs text parser cursor after) :
    Leads parser cursor after := by
  intro result next ran
  unfold Runs at runs
  rw [ran] at runs
  exact runs

theorem leads_pure {result : Result} (holds : after result cursor) :
    Leads (pure result) cursor after := by
  intro found next ran
  cases ran
  exact holds

theorem leads_pure_bind {final : Other → Cursor → Prop} {result : Result}
    {continued : Result → Parser Other}
    (continues : Leads (continued result) cursor final) :
    Leads (pure result >>= continued) cursor final :=
  continues

theorem leads_fail (problem : SyntaxProblem) :
    Leads (fail problem) cursor after := by
  intro result next ran
  cases ran

theorem leads_failAt (problem : SyntaxProblem) (span : Span) :
    Leads (failAt problem span) cursor after := by
  intro result next ran
  cases ran

theorem Leads.bind {middle : Result → Cursor → Prop}
    {final : Other → Cursor → Prop} {continued : Result → Parser Other}
    (leads : Leads parser cursor middle)
    (continues : ∀ result next, middle result next →
      Leads (continued result) next final) :
    Leads (parser >>= continued) cursor final := by
  intro result next ran
  obtain ⟨first, between, ranFirst, ranOn⟩ := bind_eq_ok.mp ran
  have holds := leads first between ranFirst
  exact continues first between holds result next ranOn

theorem Leads.discard {final : Cursor → Prop}
    (leads : Leads parser cursor fun _ next => final next) :
    Leads (discard parser) cursor fun _ next => final next := by
  intro nothing next ran
  obtain ⟨result, ranFirst⟩ := discard_eq_ok.mp ran
  exact leads result next ranFirst

theorem Leads.mono {weaker : Result → Cursor → Prop}
    (leads : Leads parser cursor after)
    (weaken : ∀ result next, after result next → weaker result next) :
    Leads parser cursor weaker :=
  fun result next ran => weaken result next (leads result next ran)

theorem Leads.and {further : Result → Cursor → Prop}
    (leads : Leads parser cursor after) (others : Leads parser cursor further) :
    Leads parser cursor fun result next => after result next ∧ further result next :=
  fun result next ran => ⟨leads result next ran, others result next ran⟩

/-- What a parser gives that may fail: nothing, and the cursor stays. -/
def Attempted (cursor : Cursor) (after : Result → Cursor → Prop)
    (found : Option Result) (next : Cursor) : Prop :=
  match found with
  | none => next = cursor
  | some result => after result next

theorem Leads.attempt (leads : Leads parser cursor after) :
    Leads (attempt parser) cursor (Attempted cursor after) := by
  intro found next ran
  unfold Parser.attempt at ran
  cases first : parser cursor with
  | error error =>
      rw [first] at ran
      cases ran
      rfl
  | ok outcome =>
      rw [first] at ran
      cases ran
      exact leads outcome.1 outcome.2 first

theorem leads_ite {condition : Prop} [Decidable condition]
    {other : Parser Result} (here : condition → Leads parser cursor after)
    (there : ¬ condition → Leads other cursor after) :
    Leads (if condition then parser else other) cursor after := by
  split
  · next holds => exact here holds
  · next fails => exact there fails

/-! ## Looking and moving -/

theorem leads_get {continued : Cursor → Parser Result}
    (continues : Leads (continued cursor) cursor after) :
    Leads (get >>= continued) cursor after :=
  continues

theorem leads_set {next : Cursor} {continued : Unit → Parser Result}
    (continues : Leads (continued ()) next after) :
    Leads (set next >>= continued) cursor after :=
  continues

theorem leads_skipTrivia {continued : Unit → Parser Result}
    (continues : Leads (continued ()) cursor.tokenStart after) :
    Leads (skipTrivia >>= continued) cursor after :=
  continues

theorem leads_skip {continued : Unit → Parser Result} {count : Nat}
    (continues : Leads (continued ()) (cursor.advance count) after) :
    Leads (skip count >>= continued) cursor after :=
  continues

theorem leads_tokenOffset {continued : Nat → Parser Result}
    (continues : Leads (continued cursor.tokenStart.offset) cursor after) :
    Leads (tokenOffset >>= continued) cursor after :=
  continues

theorem leads_spanFrom {start : Nat} {continued : Span → Parser Result}
    (continues : Leads (continued ⟨start, cursor.offset⟩) cursor after) :
    Leads (spanFrom start >>= continued) cursor after :=
  continues

/-- Skipping at a cursor that is not at the end. -/
theorem leads_skip_of_cons {first : Char} {others : List Char} (count : Nat)
    (standing : cursor.rest = first :: others) :
    Leads (skip (count + 1)) cursor fun _ next => Moves 1 cursor next := by
  have runs : Runs [] (skip (count + 1)) cursor fun _ next =>
      Moves 1 cursor next := reads_skip_of_cons count standing
  exact runs.leads

/-- Where trivia ends no trivia follows. -/
theorem triviaLength_drop (mode : TriviaMode) (rest : List Char) :
    ∀ count, triviaLength mode rest = count →
      triviaLength .between (rest.drop count) = 0 := by
  fun_induction triviaLength mode rest with
  | case1 rest inductionHypothesis | case2 rest inductionHypothesis
  | case7 rest inductionHypothesis =>
      rintro count rfl
      rw [List.drop_succ_cons, List.drop_succ_cons]
      exact inductionHypothesis _ rfl
  | case3 character rest _ _ space inductionHypothesis
  | case6 character rest _ inductionHypothesis
  | case8 character rest _ inductionHypothesis =>
      rintro count rfl
      rw [List.drop_succ_cons]
      exact inductionHypothesis _ rfl
  | case4 character rest notLine notBlock visible =>
      rintro count rfl
      rw [List.drop_zero]
      unfold triviaLength
      split <;> simp_all
  | case5 rest inductionHypothesis =>
      rintro count rfl
      rw [List.drop_succ_cons]
      exact inductionHypothesis _ rfl
  | case9 mode =>
      rintro count rfl
      rfl

@[simp]
theorem tokenStart_tokenStart (cursor : Cursor) :
    cursor.tokenStart.tokenStart = cursor.tokenStart := by
  have none : cursor.tokenStart.triviaCount = 0 :=
    triviaLength_drop .between cursor.rest _ rfl
  rw [Cursor.tokenStart, none, Cursor.advance, List.take_zero, List.drop_zero]
  rfl

/-- A parser that skips trivia first reads the same from the token on. -/
theorem leads_atToken {continued : Unit → Parser Result}
    (leads : Leads (skipTrivia >>= continued) cursor.tokenStart after) :
    Leads (skipTrivia >>= continued) cursor after := by
  have same : Leads (continued ()) cursor.tokenStart.tokenStart after := leads
  rw [tokenStart_tokenStart] at same
  exact same

/-! ## Tokens -/

/-- What a parser that may read a token tells: whether it has. -/
def Decides (cursor : Cursor) (taken : Bool) (next : Cursor) : Prop :=
  if taken = true then cursor.Passes next else next = cursor

/-- The two ways to go on after a parser that may read a token. -/
theorem Leads.branch {parser : Parser Bool} {taken untaken : Parser Result}
    (leads : Leads parser cursor (Decides cursor))
    (here : ∀ next, cursor.Passes next → Leads taken next after)
    (there : Leads untaken cursor after) :
    Leads (do if ← parser then taken else untaken) cursor after := by
  refine leads.bind fun found next outcome => ?_
  cases found with
  | true => exact here next outcome
  | false =>
      have same : next = cursor := outcome
      rw [same]
      exact there

/-- A step that is taken only after a token has been read. -/
theorem Leads.optional {parser : Parser Bool} {step : Parser Unit}
    {continued : Unit → Parser Result}
    (leads : Leads parser cursor (Decides cursor))
    (taken : ∀ next, cursor.Passes next →
      Leads step next fun _ final => Moves 0 next final)
    (continues : ∀ next, Moves 0 cursor next → Leads (continued ()) next after) :
    Leads (do if ← parser then step >>= continued else continued ())
      cursor after := by
  refine leads.branch (fun next passed => ?_) (continues cursor (.refl cursor))
  exact (taken next passed).bind fun _ final moved =>
    continues final (passed.moves.onTo moved)

/-- Whether something has been read or not, no token has been missed. -/
theorem Decides.reaches {taken : Bool} {next : Cursor}
    (outcome : Decides cursor taken next) : cursor.Reaches next := by
  cases taken with
  | true => exact Or.inr outcome
  | false => exact Or.inl outcome

theorem leads_eat (punctuator : Punctuator) :
    Leads (eat punctuator) cursor (Decides cursor) := by
  have runs : Runs [] (eat punctuator) cursor (Decides cursor) :=
    runs_eatToken punctuator
  exact runs.leads

theorem leads_expect (punctuator : Punctuator) :
    Leads (expect punctuator) cursor fun _ next => cursor.Passes next :=
  (leads_eat punctuator).branch (fun _ passed => leads_pure passed)
    (leads_fail _)

theorem leads_eatWord (word : String) :
    Leads (eatWord word) cursor (Decides cursor) := by
  refine leads_get (leads_ite (fun seen => ?_) fun _ => leads_pure rfl)
  obtain ⟨characters, found, rfl⟩ := Option.map_eq_some_iff.mp (eq_of_beq seen)
  obtain ⟨front, nonempty⟩ := wordAtFront?_isPrefix found
  refine leads_set (leads_pure ?_)
  have passed := Cursor.moves_of_isPrefix front nonempty
  rw [← String.length_ofList] at passed
  exact passed

theorem leads_expectWord (word : String) :
    Leads (expectWord word) cursor fun _ next => cursor.Passes next :=
  (leads_eatWord word).branch (fun _ passed => leads_pure passed)
    (leads_fail _)

theorem leads_semicolon :
    Leads semicolon cursor fun _ next => Moves 0 cursor next :=
  (leads_eat .semicolon).branch
    (fun _ passed => leads_pure passed.moves.reaches)
    (leads_get (leads_ite (fun _ => leads_pure (.refl cursor))
      fun _ => leads_fail _))

theorem leads_skipBalanced {opening closing : Char}
    (stands : cursor.StandsIn text) :
    Leads (skipBalanced opening closing) cursor fun _ next =>
      cursor.Passes next :=
  leads_atToken (reads_skipBalanced stands.atToken).leads

/-! ## Loops -/

/-- What holds before every round and after the last one. -/
theorem leads_repeating {round : State → Parser (Round State Result)}
    {state : State} (invariant : State → Cursor → Prop)
    (initial : invariant state cursor)
    (step : ∀ state here, invariant state here →
      Leads (round state) here (Round.Satisfies invariant after)) :
    Leads (repeating state round) cursor after := by
  intro result next ran
  exact repeating_satisfies invariant after
    (fun state here outcome next holds ranRound =>
      step state here holds outcome next ranRound) initial ran

/-- A loop that gives what its last round starts from. -/
theorem leads_gathering {round : State → Parser (Round State State)}
    {state : State} (invariant : State → Cursor → Prop)
    (initial : invariant state cursor)
    (step : ∀ state here, invariant state here →
      Leads (round state) here (Round.Satisfies invariant invariant)) :
    Leads (repeating state round) cursor invariant :=
  leads_repeating invariant initial step

/-- A loop of which only the cursor matters. -/
theorem leads_roaming {round : State → Parser (Round State Result)}
    {state : State} (reached : Cursor → Prop) (initial : reached cursor)
    (step : ∀ state here, reached here →
      Leads (round state) here fun _ next => reached next) :
    Leads (repeating state round) cursor fun _ next => reached next := by
  refine leads_repeating (fun _ here => reached here) initial
    fun state here holds => (step state here holds).mono fun outcome next kept => ?_
  cases outcome with
  | again following => exact kept
  | finished found => exact kept

/-! ## Parsers that lay nodes -/

/-- A token has been passed, and the nodes of the result stand between its start
and the cursor after it. -/
structure Lays (text : List Char) (nodes : Result → List Node) (cursor : Cursor)
    (result : Result) (next : Cursor) : Prop where
  passes : cursor.Passes next
  laid : Laid text cursor.tokenStart.offset next.offset (nodes result)

namespace Lays

variable {nodes : Result → List Node} {result : Result} {here next : Cursor}

theorem moves (lays : Lays text nodes cursor result next) :
    Moves 1 cursor next :=
  lays.passes.moves

/-- Seen from the cursor, the nodes stand further on. -/
theorem laidFrom (lays : Lays text nodes cursor result next) :
    Laid text cursor.offset next.offset (nodes result) :=
  lays.laid.widen cursor.moves_tokenStart.offset_le (Nat.le_refl _)

/-- The nodes come after those that have been laid before. -/
theorem behind {offset : Nat} {earlier : List Node}
    (lays : Lays text nodes here result next)
    (laid : Laid text offset here.offset earlier) :
    Laid text offset next.offset (earlier ++ nodes result) :=
  laid.append lays.laidFrom

theorem earlier (lays : Lays text nodes here result next)
    (reaches : cursor.Reaches here) : Lays text nodes cursor result next :=
  ⟨reaches.passes lays.passes,
    lays.laid.widen reaches.offset_le (Nat.le_refl _)⟩

/-- Going on after the last node. -/
theorem further {count : Nat} (lays : Lays text nodes cursor result here)
    (moved : Moves count here next) : Lays text nodes cursor result next :=
  ⟨lays.passes.further moved, lays.laid.until moved⟩

end Lays

/-- Reading what is not used passes its token. -/
theorem Leads.passing {nodes : Result → List Node}
    (leads : Leads parser cursor (Lays text nodes cursor)) :
    Leads (Functor.discard parser) cursor fun _ next => cursor.Passes next :=
  Leads.discard (leads.mono fun _ _ lays => lays.passes)

/-- A node from the next token on. -/
theorem Lays.ofNode {nodes : Result → List Node} {result : Result} {node : Node}
    {next : Cursor} (stands : cursor.StandsIn text) (passes : cursor.Passes next)
    (single : nodes result = [node])
    (spanned : node.span = ⟨cursor.tokenStart.offset, next.offset⟩)
    (below : Laid text cursor.tokenStart.offset next.offset node.children)
    (wordless : node.word? = none) : Lays text nodes cursor result next := by
  refine ⟨passes, ?_⟩
  rw [single]
  exact Laid.ofNode stands.atToken passes spanned below wordless

/-- Reading on at a later cursor lays an expression from the first one on. -/
abbrev LaysFrom (text : List Char) (cursor : Cursor) (parser : Parser Expression)
    (here : Cursor) : Prop :=
  Leads parser here (Lays text (fun found => [.expression found]) cursor)

/-- Reading an expression lays it. -/
abbrev LaysExpression (text : List Char) (parser : Parser Expression)
    (cursor : Cursor) : Prop :=
  LaysFrom text cursor parser cursor

abbrev LaysName (text : List Char) (parser : Parser Identifier)
    (cursor : Cursor) : Prop :=
  Leads parser cursor (Lays text (fun named => [.identifier named]) cursor)

theorem leads_otherExpression {kind : OtherExpression} {next : Cursor}
    (stands : cursor.StandsIn text) (passes : cursor.Passes next) :
    Leads (otherExpression kind cursor.tokenStart.offset) next
      (Lays text (fun found => [.expression found]) cursor) := by
  refine leads_spanFrom (leads_pure ?_)
  exact .ofNode stands passes rfl rfl (.nil passes.offset_le) rfl

/-! ## Names -/

/-- A name is laid under its word. -/
theorem leads_nameOf {word : List Char} (stands : cursor.StandsIn text)
    (found : wordAtFront? cursor.tokenStart.rest = some word) :
    LaysName text (nameOf word) cursor := by
  obtain ⟨front, nonempty⟩ := wordAtFront?_isPrefix found
  have passed := Cursor.moves_of_isPrefix front nonempty
  refine leads_get (leads_set (leads_spanFrom (leads_pure ⟨passed, ?_⟩)))
  have taken : cursor.tokenStart.rest.take word.length = word :=
    (List.prefix_iff_eq_take.mp front).symm
  refine .single (Nat.le_refl _) ?_ (Nat.le_refl _)
  refine Node.isSound_of_laid stands.atToken passed rfl
    (.nil passed.offset_le) fun kept same => ?_
  have named : String.ofList word = kept := Option.some.inj same
  rw [← named, String.toList_ofList]
  refine stands.atToken.excerpt ?_ ?_
  · rw [Cursor.advance]
    exact (List.prefix_iff_eq_append.mp front).symm
  · rw [Cursor.advance, taken]

theorem leads_word (stands : cursor.StandsIn text) :
    LaysName text word cursor := by
  refine leads_get ?_
  split
  · next found => exact leads_nameOf stands found
  · exact leads_fail _

theorem leads_identifier (stands : cursor.StandsIn text) :
    LaysName text identifier cursor := by
  refine leads_get ?_
  dsimp only
  split
  · next found =>
      exact leads_ite (fun _ => leads_failAt _ _)
        fun _ => leads_nameOf stands found
  · exact leads_fail _

/-! ## Lists of items -/

/-- The nodes of some results, one after the other. -/
theorem flatMap_concat (nodes : Result → List Node) (results : List Result)
    (result : Result) :
    (results ++ [result]).flatMap nodes = results.flatMap nodes ++ nodes result := by
  rw [List.flatMap_append, List.flatMap_singleton]

theorem leads_itemRound {closing : Punctuator} {item : Parser Result}
    {nodes : Result → List Node} {results : List Result} {here : Cursor}
    (reached : Moves 0 cursor here)
    (laid : Laid text cursor.offset here.offset (results.flatMap nodes))
    (leads : Leads item here (Lays text nodes here)) :
    Leads (itemRound closing item results) here (Round.Satisfies
      (fun found next => Moves 0 cursor next ∧
        Laid text cursor.offset next.offset (found.flatMap nodes))
      fun found next => Moves 1 cursor next ∧
        Laid text cursor.offset next.offset (found.flatMap nodes)) := by
  refine leads.bind fun result between lays => ?_
  have longer := lays.behind laid
  rw [← flatMap_concat] at longer
  refine (leads_eat .comma).branch (fun next passed => leads_pure ?_) ?_
  · exact ⟨(passed.after (reached.trans lays.moves)).reaches,
      longer.until passed.moves⟩
  · refine (leads_expect closing).bind fun _ next closed => leads_pure ?_
    exact ⟨closed.after (reached.trans lays.moves), longer.until closed.moves⟩

/-- Items with commas between them are laid one after the other. -/
theorem leads_commaSeparated {closing : Punctuator} {item : Parser Result}
    {nodes : Result → List Node} (stands : cursor.StandsIn text)
    (items : ∀ here, here.StandsIn text →
      Leads item here (Lays text nodes here)) :
    Leads (commaSeparated closing item) cursor fun results next =>
      Moves 1 cursor next ∧
        Laid text cursor.offset next.offset (results.flatMap nodes) := by
  refine leads_repeating (fun results here => Moves 0 cursor here ∧
    Laid text cursor.offset here.offset (results.flatMap nodes))
    ⟨.refl cursor, .nil (Nat.le_refl _)⟩ fun results here holds => ?_
  obtain ⟨reached, laid⟩ := holds
  refine (leads_eat closing).branch
    (fun _ closed => leads_pure ⟨closed.after reached, laid.until closed.moves⟩) ?_
  exact leads_itemRound reached laid (items here (stands.after reached))

/-- A list between an opening and a closing punctuator is laid from the opening
one on. -/
theorem leads_enclosed {opening closing : Punctuator} {item : Parser Result}
    {node : Result → Node} (stands : cursor.StandsIn text)
    (items : ∀ here, here.StandsIn text →
      Leads item here (Lays text (fun found => [node found]) here)) :
    Leads (expect opening >>= fun _ => commaSeparated closing item) cursor
      (Lays text (fun found => found.map node) cursor) := by
  refine (leads_expect opening).bind fun _ inside opened => ?_
  refine (leads_commaSeparated (stands.after opened.moves) items).mono
    fun found next outcome => ?_
  obtain ⟨closed, laid⟩ := outcome
  rw [← List.map_eq_flatMap] at laid
  exact ⟨opened.further closed, laid.widen opened.offset_le (Nat.le_refl _)⟩

/-- Items with commas between them, and holes that are laid like items. -/
theorem leads_commaSeparatedOrHoles {closing : Punctuator}
    {hole : Nat → Parser Result} {item : Parser Result}
    {nodes : Result → List Node} (stands : cursor.StandsIn text)
    (holes : ∀ here next : Cursor, here.StandsIn text → here.Passes next →
      Leads (hole here.tokenStart.offset) next fun result final =>
        Moves 0 next final ∧
          Laid text here.tokenStart.offset final.offset (nodes result))
    (items : ∀ here, here.StandsIn text →
      Leads item here (Lays text nodes here)) :
    Leads (commaSeparatedOrHoles closing hole item) cursor fun results next =>
      Moves 1 cursor next ∧
        Laid text cursor.offset next.offset (results.flatMap nodes) := by
  refine leads_repeating (fun results here => Moves 0 cursor here ∧
    Laid text cursor.offset here.offset (results.flatMap nodes))
    ⟨.refl cursor, .nil (Nat.le_refl _)⟩ fun results here holds => ?_
  obtain ⟨reached, laid⟩ := holds
  refine leads_tokenOffset ?_
  refine (leads_eat closing).branch
    (fun _ closed => leads_pure ⟨closed.after reached, laid.until closed.moves⟩) ?_
  refine (leads_eat .comma).branch (fun next passed => ?_) ?_
  · refine (holes here next (stands.after reached) passed).bind
      fun result final outcome => leads_pure ?_
    obtain ⟨rested, lays⟩ := outcome
    have longer := (laid.until here.moves_tokenStart).append lays
    rw [← flatMap_concat] at longer
    exact ⟨((passed.after reached).further rested).reaches, longer⟩
  · exact leads_itemRound reached laid (items here (stands.after reached))

end Parser

end VelocityScript.Script
