import VelocityScript.Proofs.Script.Delivering
import VelocityScript.Script.Grammar.Expression

/-!
# Restored lists and chains

A parser restores a rendered expression of the core: it gives the expression
back, up to where its parts stand, and stops right behind the last token.

With parsers that restore shorter expressions a list between brackets is
restored item by item.  A chain, of accesses or of operators, is restored along
the left side of an expression, step by step.
-/

namespace VelocityScript.Script

open VelocityScript.Script.Parser

/-- A parser gives an expression back from its tokens, if what stands behind
them satisfies a condition. -/
def Restores (parser : Parser Expression) (behind : List Char → Prop)
    (source : Expression) : Prop :=
  ∀ cursor rest, cursor.Shows source.tokens rest → behind rest →
    Delivers parser cursor source.Agrees rest

/-- The parsers of nested constructs restore expressions of at most `depth`
tokens. -/
structure Nested.Restore (nested : Nested) (depth : Nat) : Prop where
  assignment : ∀ source : Expression, source.isCore = true →
    source.tokens.length ≤ depth →
      Restores nested.assignment (Follows 1) source
  binary : ∀ (least : Nat) (source : Expression), source.isCore = true →
    source.tokens.length ≤ depth → source.bindsFrom least = true →
      least ≤ prefixLevel → Restores (nested.binary least) (Follows least) source
  unary : ∀ source : Expression, source.isCore = true →
    source.tokens.length ≤ depth → source.bindsFrom prefixLevel = true →
      Restores nested.unary (Follows prefixLevel) source

/-! ## Lists -/

/-- The rounds of a list end at the closing punctuator and read an item where
an expression of the core starts. -/
structure ReadsItems (closing : Punctuator) (item : Parser Expression)
    (round : List Expression →
      Parser (Round (List Expression) (List Expression))) : Prop where
  ends : ∀ items cursor rest, cursor.Faces (.punctuator closing) rest →
    Delivers (round items) cursor (· = .finished items) rest
  reads : ∀ items cursor token rest, Cursor.Faces cursor token rest →
    token.opens = true →
      round items cursor = itemRound closing item items cursor

namespace ReadsItems

variable {closing : Punctuator} {item : Parser Expression}
  {round : List Expression → Parser (Round (List Expression) (List Expression))}
  {source : Expression} {items : List Expression} {cursor : Cursor}
  {rest : List Char}

/-- The last item of a list. -/
theorem delivers_last (readsItems : ReadsItems closing item round)
    (core : source.isCore = true) (restores : Restores item (Follows 1) source)
    (closes : Closes (spaced [.punctuator closing] rest))
    (bounded : IsBounded rest)
    (shows : cursor.Shows source.tokens (spaced [.punctuator closing] rest)) :
    Delivers (round items) cursor (fun outcome => ∃ results,
      outcome = .finished results ∧
        ∃ result, results = items ++ [result] ∧ source.Agrees result) rest := by
  obtain ⟨token, behind, faces, opens⟩ := shows.exists_opens core (.spaced _)
  refine Delivers.of_eq ?_
    (readsItems.reads items cursor token behind faces opens)
  refine (restores cursor _ shows (.closed closes)).bind
    fun result here agrees passed => ?_
  have showsClosing : here.Shows [.punctuator closing] rest := Or.inl passed
  refine delivers_uneaten (closes.sees_comma passed) ?_
  exact delivers_expect (showsClosing.faces rfl bounded) fun final stops =>
    delivers_pure ⟨_, rfl, result, rfl, agrees⟩ stops

/-- An item with others behind it. -/
theorem delivers_again (readsItems : ReadsItems closing item round)
    (core : source.isCore = true) (restores : Restores item (Follows 1) source)
    (bounded : IsBounded rest)
    (shows : cursor.Shows source.tokens (spaced [.punctuator .comma] rest)) :
    Delivers (round items) cursor (fun outcome => ∃ following,
      outcome = .again following ∧
        ∃ result, following = items ++ [result] ∧ source.Agrees result) rest := by
  obtain ⟨token, behind, faces, opens⟩ := shows.exists_opens core (.spaced _)
  refine Delivers.of_eq ?_
    (readsItems.reads items cursor token behind faces opens)
  refine (restores cursor _ shows (.comma bounded)).bind
    fun result here agrees passed => ?_
  have showsComma : here.Shows [.punctuator .comma] rest := Or.inl passed
  exact delivers_eat (showsComma.faces rfl bounded) fun final stops =>
    delivers_pure ⟨_, rfl, result, rfl, agrees⟩ stops

theorem loops (readsItems : ReadsItems closing item round)
    (closes : Closes (spaced [.punctuator closing] rest))
    (bounded : IsBounded rest) :
    ∀ (sources : List Expression), areCore sources = true →
      (∀ source ∈ sources, Restores item (Follows 1) source) →
        ∀ (items : List Expression) (cursor : Cursor),
          cursor.rest =
            spaced (separatedTokens sources ++ [.punctuator closing]) rest →
          Loops round items cursor (fun results =>
            ∃ read, results = items ++ read ∧ AgreeAll sources read) rest
  | [], _, _, items, cursor, standing => by
      have shows : cursor.Shows [.punctuator closing] rest := Or.inl standing
      refine loops_finished
        ((readsItems.ends items cursor rest (shows.faces rfl bounded)).mono ?_)
      rintro outcome rfl
      exact ⟨items, rfl, [], (List.append_nil items).symm, rfl⟩
  | [source], core, restores, items, cursor, standing => by
      simp only [areCore, Bool.and_true] at core
      have shows : cursor.Shows source.tokens
          (spaced [.punctuator closing] rest) := by
        refine Or.inl ?_
        rw [standing, spaced_append, separatedTokens, precededTokens,
          List.append_nil]
      refine loops_finished ((readsItems.delivers_last core
        (restores source List.mem_cons_self) closes bounded shows).mono ?_)
      rintro outcome ⟨results, rfl, result, rfl, agrees⟩
      exact ⟨_, rfl, [result], rfl, agrees.cons rfl⟩
  | source :: next :: others, core, restores, items, cursor, standing => by
      simp only [areCore, Bool.and_eq_true] at core
      have coreOthers : areCore (next :: others) = true := by
        rw [areCore, core.2.1, core.2.2]
        rfl
      have split : cursor.rest =
          spaced source.tokens (spaced [.punctuator .comma]
            (spaced (separatedTokens (next :: others) ++
              [.punctuator closing]) rest)) := by
        rw [standing, ← spaced_append, ← spaced_append]
        simp [separatedTokens, precededTokens]
      refine loops_again (readsItems.delivers_again core.1
        (restores source List.mem_cons_self) (bounded.ofTokens _)
          (Or.inl split)) ?_ ?_
      · have length := length_le_spaced source.tokens
          (spaced [.punctuator .comma] (spaced (separatedTokens
            (next :: others) ++ [.punctuator closing]) rest))
        rw [← split] at length
        exact Nat.lt_of_lt_of_le (length_lt_spaced _ _ _)
          (Nat.le_trans (Nat.le_add_left _ _) length)
      · rintro following here ⟨result, rfl, agrees⟩ passed
        refine (loops readsItems closes bounded (next :: others) coreOthers
          (fun other member => restores other (List.mem_cons_of_mem _ member))
          (items ++ [result]) here passed).mono ?_
        rintro results ⟨read, rfl, agreeAll⟩
        exact ⟨result :: read, List.append_assoc _ _ _, agrees.cons agreeAll⟩

end ReadsItems

/-! ## Chains -/

/-- A chain that starts with one parser and goes on step by step gets to an
expression right behind its tokens, if what stands there satisfies a condition.
What the loop delivers from there on is what the chain delivers. -/
def Chains (first : Parser Expression)
    (step : Expression → Parser (Round Expression Expression))
    (behind : List Char → Prop) (source : Expression) : Prop :=
  ∀ (cursor : Cursor) (rest left : List Char) (kind : Expression → Prop),
    cursor.Shows source.tokens rest → behind rest →
    (∀ result next, source.Agrees result → next.rest = rest →
      Loops step result next kind left) →
    Delivers (do let base ← first; repeating base step) cursor kind left

section Chains

variable {first : Parser Expression}
  {step : Expression → Parser (Round Expression Expression)}
  {behind further : List Char → Prop} {base source : Expression}

/-- A chain starts with what its first parser restores. -/
theorem Restores.chains (restores : Restores first behind source) :
    Chains first step behind source := by
  intro cursor rest left kind shows holds continues
  exact (restores cursor rest shows holds).bind
    fun result next agrees standing =>
      (continues result next agrees standing).delivers

theorem Chains.weaken (chains : Chains first step further source)
    (weaker : ∀ rest, behind rest → further rest) :
    Chains first step behind source :=
  fun cursor rest left kind shows holds continues =>
    chains cursor rest left kind shows (weaker rest holds) continues

/-- A step takes a chain from one expression to a longer one. -/
theorem Chains.extend {token : Token} {tokens : List Token}
    (chains : Chains first step further base)
    (spelled : source.tokens = base.tokens ++ token :: tokens)
    (goesOn : ∀ rest, behind rest → further (spaced (token :: tokens) rest))
    (reads : ∀ result cursor rest, base.Agrees result → behind rest →
      cursor.rest = spaced (token :: tokens) rest →
      Delivers (step result) cursor (fun outcome =>
        ∃ following, outcome = .again following ∧ source.Agrees following) rest) :
    Chains first step behind source := by
  intro cursor rest left kind shows holds continues
  rw [spelled, Cursor.shows_append] at shows
  refine chains cursor _ left kind shows (goesOn rest holds)
    fun result next agrees standing => ?_
  refine loops_again (reads result next rest agrees holds standing) ?_ continues
  rw [standing]
  exact length_lt_spaced token tokens rest

/-- A chain that goes no further restores what it has got to. -/
theorem Chains.restores (chains : Chains first step behind source)
    (ends : ∀ result cursor rest, behind rest → cursor.rest = rest →
      Delivers (step result) cursor (· = .finished result) rest) :
    Restores (do let base ← first; repeating base step) behind source := by
  intro cursor rest shows holds
  refine chains cursor rest rest _ shows holds
    fun result next agrees standing => loops_finished ?_
  refine (ends result next rest holds standing).mono ?_
  rintro outcome rfl
  exact ⟨result, rfl, agrees⟩

end Chains

namespace Grammar

variable {nested : Nested} {depth : Nat} {source : Expression}
  {sources : List Expression} {cursor : Cursor} {rest : List Char}

/-! ## Expressions between brackets -/

theorem restores_expression (restore : nested.Restore depth)
    (core : source.isCore = true) (short : source.tokens.length ≤ depth) :
    Restores (expression nested) Closes source := by
  intro cursor rest shows closes
  refine delivers_tokenOffset ?_
  refine (restore.assignment source core short cursor rest shows
    (.closed closes)).bind fun first next agrees standing => delivers_get ?_
  rw [closes.sees_comma standing, if_neg Bool.false_ne_true]
  exact delivers_pure agrees standing

theorem restores_spreadable (restore : nested.Restore depth)
    (core : source.isCore = true) (short : source.tokens.length ≤ depth) :
    Restores (spreadable nested) (Follows 1) source := by
  intro cursor rest shows follows
  obtain ⟨token, behind, faces, opens⟩ :=
    shows.exists_opens core follows.isBounded
  refine delivers_tokenOffset ?_
  refine delivers_uneaten (faces.sees_eq_false opens .ellipsis) ?_
  exact restore.assignment source core short cursor rest shows follows

/-- The items between brackets. -/
theorem delivers_items (restore : nested.Restore depth)
    {closing : Punctuator}
    {round : List Expression → Parser (Round (List Expression) (List Expression))}
    (readsItems : ReadsItems closing (spreadable nested) round)
    (core : areCore sources = true)
    (short : (separatedTokens sources).length ≤ depth)
    (closes : Closes (spaced [.punctuator closing] rest))
    (bounded : IsBounded rest)
    (standing : cursor.rest =
      spaced (separatedTokens sources ++ [.punctuator closing]) rest) :
    Delivers (repeating [] round) cursor (AgreeAll sources) rest := by
  have restores : ∀ source ∈ sources,
      Restores (spreadable nested) (Follows 1) source := by
    intro source member
    have shorter := length_le_separatedTokens member
    exact restores_spreadable restore (areCore_iff.mp core source member)
      (Nat.le_trans shorter short)
  refine (readsItems.loops closes bounded sources core restores [] cursor
    standing).delivers.mono ?_
  rintro results ⟨read, rfl, agreeAll⟩
  exact agreeAll

theorem delivers_arguments (restore : nested.Restore depth)
    (core : areCore sources = true)
    (short : (separatedTokens sources).length ≤ depth)
    (bounded : IsBounded rest)
    (faces : cursor.Faces (.punctuator .openParen)
      (spaced (separatedTokens sources ++ [.punctuator .closeParen]) rest)) :
    Delivers (arguments nested) cursor (AgreeAll sources) rest := by
  refine delivers_expect faces fun here standing => ?_
  refine delivers_items restore ⟨?_, ?_⟩ core short (.parenthesis bounded)
    bounded standing
  · intro items cursor rest facesClosing
    exact delivers_eat facesClosing fun next passed => delivers_pure rfl passed
  · intro items cursor token rest facesToken opens
    exact bind_eat_of_unseen (facesToken.sees_eq_false opens .closeParen)

theorem delivers_arrayElements (restore : nested.Restore depth)
    (core : areCore sources = true)
    (short : (separatedTokens sources).length ≤ depth)
    (bounded : IsBounded rest)
    (faces : cursor.Faces (.punctuator .openBracket)
      (spaced (separatedTokens sources ++ [.punctuator .closeBracket]) rest)) :
    Delivers (arrayElements nested) cursor (AgreeAll sources) rest := by
  refine delivers_expect faces fun here standing => ?_
  refine delivers_items restore ⟨?_, ?_⟩ core short (.bracket bounded)
    bounded standing
  · intro items cursor rest facesClosing
    exact delivers_tokenOffset (delivers_eat facesClosing
      fun next passed => delivers_pure rfl passed)
  · intro items cursor token rest facesToken opens
    have unclosed := facesToken.sees_eq_false opens .closeBracket
    have present := facesToken.sees_eq_false opens .comma
    rw [bind_tokenOffset]
    refine (bind_eat_of_unseen unclosed).trans ?_
    exact bind_eat_of_unseen present

end Grammar

end VelocityScript.Script
