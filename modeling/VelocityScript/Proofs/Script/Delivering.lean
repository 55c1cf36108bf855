import VelocityScript.Proofs.Script.Facing

/-!
# What parsers deliver on rendered tokens

A parser delivers a result at a cursor if it succeeds there, its result is of a
given kind, and it leaves a given text.  Sequences, branches and loops deliver
what their parts do; a loop does so in as many rounds as it needs, for every
round but the last one leaves a shorter text.
-/

namespace VelocityScript.Script

namespace Parser

variable {Result Other State : Type}

/-- What follows a parser goes on from its outcome. -/
theorem bind_of_ok {parser : Parser Result} {continued : Result → Parser Other}
    {cursor next : Cursor} {result : Result}
    (ran : parser cursor = .ok (result, next)) :
    (parser >>= continued) cursor = continued result next := by
  have unfolded : (parser >>= continued) cursor =
      (parser cursor).bind fun outcome => continued outcome.1 outcome.2 := rfl
  rw [unfolded, ran]
  rfl

/-- A parser succeeds at a cursor with a result of a kind and leaves the given
text. -/
def Delivers (parser : Parser Result) (cursor : Cursor)
    (kind : Result → Prop) (left : List Char) : Prop :=
  ∃ result next, parser cursor = .ok (result, next) ∧ kind result ∧
    next.rest = left

variable {cursor : Cursor} {kind : Result → Prop} {left rest : List Char}

theorem delivers_pure {result : Result} (holds : kind result)
    (standing : cursor.rest = left) : Delivers (pure result) cursor kind left :=
  ⟨result, cursor, rfl, holds, standing⟩

theorem delivers_pure_bind {other : Other → Prop} {result : Result}
    {continued : Result → Parser Other}
    (continues : Delivers (continued result) cursor other left) :
    Delivers (pure result >>= continued) cursor other left :=
  continues

theorem Delivers.bind {other : Other → Prop} {parser : Parser Result}
    {continued : Result → Parser Other} {middle : List Char}
    (delivers : Delivers parser cursor kind middle)
    (continues : ∀ result next, kind result → next.rest = middle →
      Delivers (continued result) next other left) :
    Delivers (parser >>= continued) cursor other left := by
  obtain ⟨result, next, ran, holds, standing⟩ := delivers
  rw [Delivers, bind_of_ok ran]
  exact continues result next holds standing

theorem Delivers.mono {weaker : Result → Prop} {parser : Parser Result}
    (delivers : Delivers parser cursor kind left)
    (weaken : ∀ result, kind result → weaker result) :
    Delivers parser cursor weaker left := by
  obtain ⟨result, next, ran, holds, standing⟩ := delivers
  exact ⟨result, next, ran, weaken result holds, standing⟩

/-- A parser that runs like another one at a cursor. -/
theorem Delivers.of_eq {parser other : Parser Result}
    (delivers : Delivers other cursor kind left)
    (same : parser cursor = other cursor) :
    Delivers parser cursor kind left := by
  obtain ⟨result, next, ran, holds, standing⟩ := delivers
  exact ⟨result, next, same.trans ran, holds, standing⟩

theorem delivers_get {continued : Cursor → Parser Result}
    (continues : Delivers (continued cursor) cursor kind left) :
    Delivers (get >>= continued) cursor kind left :=
  continues

theorem delivers_set {next : Cursor} {continued : Unit → Parser Result}
    (continues : Delivers (continued ()) next kind left) :
    Delivers (set next >>= continued) cursor kind left :=
  continues

theorem delivers_skip {count : Nat} {continued : Unit → Parser Result}
    (continues : Delivers (continued ()) (cursor.advance count) kind left) :
    Delivers (skip count >>= continued) cursor kind left :=
  continues

theorem delivers_skipTrivia {continued : Unit → Parser Result}
    (continues : Delivers (continued ()) cursor.tokenStart kind left) :
    Delivers (skipTrivia >>= continued) cursor kind left :=
  continues

theorem bind_tokenOffset {continued : Nat → Parser Result} :
    (tokenOffset >>= continued) cursor =
      continued cursor.tokenStart.offset cursor :=
  rfl

theorem delivers_tokenOffset {continued : Nat → Parser Result}
    (continues : Delivers (continued cursor.tokenStart.offset) cursor kind left) :
    Delivers (tokenOffset >>= continued) cursor kind left :=
  continues.of_eq bind_tokenOffset

theorem delivers_spanFrom {start : Nat} {continued : Span → Parser Result}
    (continues : Delivers (continued ⟨start, cursor.offset⟩) cursor kind left) :
    Delivers (spanFrom start >>= continued) cursor kind left :=
  continues

/-! ## Tokens -/

theorem eat_of_faces {mark : Punctuator}
    (faces : cursor.Faces (.punctuator mark) rest) :
    eat mark cursor =
      .ok (true, cursor.tokenStart.advance mark.characters.length) := by
  have seen : cursor.sees mark = true := by
    rw [faces.sees]
    exact beq_self_eq_true _
  have unfolded : eat mark cursor =
      (if cursor.sees mark = true then do
          set (cursor.tokenStart.advance mark.characters.length)
          return true
        else return false : Parser Bool) cursor := rfl
  rw [unfolded, if_pos seen]
  rfl

theorem eat_of_unseen {mark : Punctuator} (unseen : cursor.sees mark = false) :
    eat mark cursor = .ok (false, cursor) := by
  have unfolded : eat mark cursor =
      (if cursor.sees mark = true then do
          set (cursor.tokenStart.advance mark.characters.length)
          return true
        else return false : Parser Bool) cursor := rfl
  rw [unfolded, if_neg (Bool.eq_false_iff.mp unseen)]
  rfl

theorem bind_eat_of_unseen {mark : Punctuator} {continued : Bool → Parser Result}
    (unseen : cursor.sees mark = false) :
    (eat mark >>= continued) cursor = continued false cursor :=
  bind_of_ok (eat_of_unseen unseen)

theorem bind_eatWord_of_unseen {word : String} {continued : Bool → Parser Result}
    (unseen : cursor.seesWord word = false) :
    (eatWord word >>= continued) cursor = continued false cursor := by
  have unfolded : eatWord word cursor =
      (if cursor.seesWord word = true then do
          set (cursor.tokenStart.advance word.length)
          return true
        else return false : Parser Bool) cursor := rfl
  rw [if_neg (Bool.eq_false_iff.mp unseen)] at unfolded
  exact bind_of_ok unfolded

theorem delivers_eat {mark : Punctuator} {continued : Bool → Parser Result}
    (faces : cursor.Faces (.punctuator mark) rest)
    (continues : ∀ next, next.rest = rest →
      Delivers (continued true) next kind left) :
    Delivers (eat mark >>= continued) cursor kind left := by
  have delivered : Delivers (eat mark) cursor (· = true) rest :=
    ⟨true, _, eat_of_faces faces, rfl, faces.rest_advance⟩
  refine delivered.bind fun taken next same standing => ?_
  rw [same]
  exact continues next standing

theorem delivers_uneaten {mark : Punctuator} {continued : Bool → Parser Result}
    (unseen : cursor.sees mark = false)
    (continues : Delivers (continued false) cursor kind left) :
    Delivers (eat mark >>= continued) cursor kind left :=
  continues.of_eq (bind_eat_of_unseen unseen)

theorem delivers_expect {mark : Punctuator} {continued : Unit → Parser Result}
    (faces : cursor.Faces (.punctuator mark) rest)
    (continues : ∀ next, next.rest = rest →
      Delivers (continued ()) next kind left) :
    Delivers (expect mark >>= continued) cursor kind left := by
  have delivered : Delivers (expect mark) cursor (fun _ => True) rest :=
    delivers_eat faces fun next standing => delivers_pure trivial standing
  exact delivered.bind fun _ next _ standing => continues next standing

theorem Cursor.Faces.wordAtFront? {name : String}
    (faces : cursor.Faces (.word name) rest) :
    wordAtFront? cursor.tokenStart.rest = some name.toList := by
  have named : (Script.wordAtFront? cursor.tokenStart.rest).map String.ofList =
      some name := faces.word
  obtain ⟨characters, found, same⟩ := Option.map_eq_some_iff.mp named
  rw [found, ← same, String.toList_ofList]

theorem delivers_nameOf {name : String}
    (faces : cursor.Faces (.word name) rest) :
    Delivers (nameOf name.toList) cursor
      (fun found => found.name = name ∧ found.binding = .unresolved) rest :=
  ⟨_, _, rfl, ⟨String.ofList_toList, rfl⟩, faces.rest_advance⟩

theorem delivers_word {name : String} (faces : cursor.Faces (.word name) rest) :
    Delivers word cursor
      (fun found => found.name = name ∧ found.binding = .unresolved) rest := by
  refine delivers_get ?_
  rw [Cursor.Faces.wordAtFront? faces]
  exact delivers_nameOf faces

theorem delivers_identifier {name : String}
    (faces : cursor.Faces (.word name) rest)
    (free : isReserved name = false) :
    Delivers identifier cursor
      (fun found => found.name = name ∧ found.binding = .unresolved) rest := by
  refine delivers_get ?_
  dsimp only
  rw [Cursor.Faces.wordAtFront? faces]
  dsimp only
  rw [String.ofList_toList, if_neg (Bool.eq_false_iff.mp free)]
  exact delivers_nameOf faces

/-- A run of characters up to a text that does not go on with it. -/
theorem delivers_takeRun {condition : Char → Bool} {run : List Char}
    (standing : cursor.rest = run ++ rest)
    (goesOn : ∀ next ∈ run, condition next = true)
    (stops : rest.takeWhile condition = []) :
    Delivers (takeRun condition) cursor (· = run) rest := by
  have taken : cursor.rest.takeWhile condition = run := by
    rw [standing, List.takeWhile_append_of_pos goesOn, stops, List.append_nil]
  refine ⟨_, _, rfl, taken, ?_⟩
  rw [Cursor.advance, taken, standing]
  exact List.drop_left

/-- A character that stands at the cursor. -/
theorem delivers_eatCharacter {character : Char}
    {continued : Bool → Parser Result} (standing : cursor.rest = character :: rest)
    (continues : ∀ next, next.rest = rest →
      Delivers (continued true) next kind left) :
    Delivers (eatCharacter character >>= continued) cursor kind left := by
  have passed : (cursor.advance 1).rest = rest := by
    rw [Cursor.advance, standing]
    rfl
  have delivered : Delivers (eatCharacter character) cursor (· = true) rest := by
    refine delivers_get ?_
    rw [standing, List.head?_cons, if_pos rfl]
    exact ⟨true, _, rfl, rfl, passed⟩
  refine delivered.bind fun taken next same standingNext => ?_
  rw [same]
  exact continues next standingNext

/-- A character that does not stand at the cursor. -/
theorem delivers_uneatenCharacter {character : Char}
    {continued : Bool → Parser Result}
    (other : cursor.rest.head? ≠ some character)
    (continues : Delivers (continued false) cursor kind left) :
    Delivers (eatCharacter character >>= continued) cursor kind left := by
  refine continues.of_eq ?_
  have unfolded : (eatCharacter character >>= continued) cursor =
      ((if cursor.rest.head? = some character then do
          skip 1
          return true
        else return false : Parser Bool) >>= continued) cursor := rfl
  rw [unfolded, if_neg other]
  rfl

theorem startsRadix_eq_false {text : String} (integer : isInteger text = true)
    (bounded : IsBounded rest) : startsRadix (text.toList ++ rest) = false := by
  obtain ⟨first, others, spelled, -, goesOn⟩ := exists_of_isInteger integer
  rw [spelled]
  cases others with
  | nil =>
      unfold startsRadix
      split
      · next mark behind same =>
          injection same with _ standing
          have starts : rest = mark :: behind := standing
          rw [starts] at bounded
          cases bounded <;> rfl
      · rfl
  | cons next more =>
      have digit := goesOn next List.mem_cons_self
      have decimal : radixMark? next = none := by
        simp [radixMark?, ne_of_test 'x' digit, ne_of_test 'X' digit,
          ne_of_test 'o' digit, ne_of_test 'O' digit, ne_of_test 'b' digit,
          ne_of_test 'B' digit]
      unfold startsRadix
      split
      · next mark behind same =>
          injection same with _ standing
          injection standing with found
          rw [← found, decimal]
          rfl
      · rfl

theorem delivers_fractionDigits (bounded : IsBounded rest)
    (standing : cursor.rest = rest) :
    Delivers fractionDigits cursor (· = []) rest := by
  refine delivers_uneatenCharacter ?_ (delivers_pure rfl standing)
  rw [standing]
  cases bounded <;> exact nofun

theorem delivers_exponentDigits {start : Nat} (bounded : IsBounded rest)
    (standing : cursor.rest = rest) :
    Delivers (exponentDigits start) cursor (· = []) rest := by
  refine delivers_get ?_
  dsimp only
  rw [standing]
  cases bounded <;> exact delivers_pure rfl standing

/-- An integer as a whole. -/
theorem delivers_number {text : String} (integer : isInteger text = true)
    (bounded : IsBounded rest) (standing : cursor.rest = text.toList ++ rest) :
    Delivers number cursor (· = ⟨text, false⟩) rest := by
  have run := isDigitOrSeparator_of_isInteger integer
  have stops : rest.takeWhile isDigitOrSeparator = [] := by
    cases bounded <;> rfl
  have decimal : startsRadix cursor.rest = false := by
    rw [standing]
    exact startsRadix_eq_false integer bounded
  refine delivers_get ?_
  dsimp only
  rw [if_neg (Bool.eq_false_iff.mp decimal)]
  refine (delivers_takeRun standing run stops).bind
    fun whole here wholeSame passed => ?_
  refine (delivers_fractionDigits bounded passed).bind
    fun fraction there fractionSame stays => ?_
  refine (delivers_exponentDigits bounded stays).bind
    fun exponent next exponentSame remains => ?_
  rw [wholeSame, fractionSame, exponentSame]
  refine delivers_pure_bind (delivers_uneatenCharacter ?_ ?_)
  · rw [remains]
    cases bounded <;> exact nofun
  · refine delivers_get ?_
    have read : (⟨String.ofList (text.toList ++ [] ++ []), false⟩ :
        NumberToken) = ⟨text, false⟩ := by
      rw [List.append_nil, List.append_nil, String.ofList_toList]
    rw [remains]
    cases bounded <;> exact delivers_pure read remains

/-! ## Failing -/

/-- A parser fails at a cursor. -/
def Fails (parser : Parser Result) (cursor : Cursor) : Prop :=
  ∃ error, parser cursor = .error error

theorem Fails.bind {parser : Parser Result} {continued : Result → Parser Other}
    (fails : Fails parser cursor) : Fails (parser >>= continued) cursor := by
  obtain ⟨error, ran⟩ := fails
  have unfolded : (parser >>= continued) cursor =
      (parser cursor).bind fun outcome => continued outcome.1 outcome.2 := rfl
  rw [Fails, unfolded, ran]
  exact ⟨error, rfl⟩

/-- A sequence fails where a later parser does. -/
theorem Delivers.fails {parser : Parser Result} {middle : List Char}
    {continued : Result → Parser Other}
    (delivers : Delivers parser cursor kind middle)
    (continues : ∀ result next, kind result → next.rest = middle →
      Fails (continued result) next) : Fails (parser >>= continued) cursor := by
  obtain ⟨result, next, ran, holds, standing⟩ := delivers
  rw [Fails, bind_of_ok ran]
  exact continues result next holds standing

theorem fails_get {continued : Cursor → Parser Result}
    (continues : Fails (continued cursor) cursor) :
    Fails (get >>= continued) cursor :=
  continues

theorem fails_skipTrivia {continued : Unit → Parser Result}
    (continues : Fails (continued ()) cursor.tokenStart) :
    Fails (skipTrivia >>= continued) cursor :=
  continues

theorem fails_uneaten {mark : Punctuator} {continued : Bool → Parser Result}
    (unseen : cursor.sees mark = false)
    (continues : Fails (continued false) cursor) :
    Fails (eat mark >>= continued) cursor := by
  rw [Fails, bind_eat_of_unseen unseen]
  exact continues

theorem fails_expect {mark : Punctuator} (unseen : cursor.sees mark = false) :
    Fails (expect mark) cursor :=
  fails_uneaten unseen ⟨_, rfl⟩

/-! ## Loops -/

/-- A loop, continued from a state with as many rounds as may be needed,
delivers a result. -/
def Loops (round : State → Parser (Round State Result)) (state : State)
    (cursor : Cursor) (kind : Result → Prop) (left : List Char) : Prop :=
  ∀ bound, cursor.rest.length < bound →
    Delivers (iterate round bound state) cursor kind left

variable {round : State → Parser (Round State Result)} {state : State}

theorem Loops.delivers (loops : Loops round state cursor kind left) :
    Delivers (repeating state round) cursor kind left :=
  loops (cursor.rest.length + 1) (Nat.lt_succ_self _)

theorem Loops.mono {weaker : Result → Prop}
    (loops : Loops round state cursor kind left)
    (weaken : ∀ result, kind result → weaker result) :
    Loops round state cursor weaker left :=
  fun bound enough => (loops bound enough).mono weaken

theorem loops_finished
    (ends : Delivers (round state) cursor
      (fun outcome => ∃ result, outcome = .finished result ∧ kind result) left) :
    Loops round state cursor kind left := by
  intro bound enough
  obtain ⟨bound, rfl⟩ := Nat.exists_eq_succ_of_ne_zero (Nat.ne_of_gt
    (Nat.lt_of_le_of_lt (Nat.zero_le _) enough))
  rw [iterate]
  refine ends.bind fun outcome next ended standing => ?_
  obtain ⟨result, rfl, holds⟩ := ended
  exact delivers_pure holds standing

theorem loops_again {holds : State → Prop} {middle : List Char}
    (goesOn : Delivers (round state) cursor
      (fun outcome => ∃ following, outcome = .again following ∧ holds following)
      middle)
    (shorter : middle.length < cursor.rest.length)
    (continues : ∀ following next, holds following → next.rest = middle →
      Loops round following next kind left) :
    Loops round state cursor kind left := by
  intro bound enough
  obtain ⟨bound, rfl⟩ := Nat.exists_eq_succ_of_ne_zero (Nat.ne_of_gt
    (Nat.lt_of_le_of_lt (Nat.zero_le _) enough))
  rw [iterate]
  refine goesOn.bind fun outcome next again standing => ?_
  obtain ⟨following, rfl, held⟩ := again
  refine continues following next held standing bound ?_
  rw [standing]
  omega

end Parser

end VelocityScript.Script
