import VelocityScript.Proofs.Script.Facing
import VelocityScript.Proofs.Script.ShiftedStatements
import VelocityScript.Proofs.Script.SpannedStatements

/-!
# Texts with white space and comments before them

White space, byte order marks and complete block comments before a text, with no
line break among them, only move what is read: a script has all its spans
shifted, and an error its location.
-/

namespace VelocityScript.Script

/-- White space, byte order marks and complete block comments, without a line
break. -/
inductive IsInlineTrivia : List Char → Prop
  | nil : IsInlineTrivia []
  | space {character : Char} {others : List Char} :
      isSpace character = true → character ≠ '\n' → IsInlineTrivia others →
        IsInlineTrivia (character :: others)
  | comment {body others : List Char} :
      ¬ ['*', '/'] <:+: body → '\n' ∉ body → IsInlineTrivia others →
        IsInlineTrivia ('/' :: '*' :: (body ++ '*' :: '/' :: others))

/-! ## Skipping the first character -/

theorem triviaLength_space {character : Char} (rest : List Char)
    (space : isSpace character = true) :
    triviaLength .between (character :: rest) =
      triviaLength .between rest + 1 := by
  have slash : character ≠ '/' := ne_of_test '/' space
  generalize counted : triviaLength .between rest = count
  unfold triviaLength
  split
  · next same =>
      injection same with first
      exact (slash first).elim
  · next same =>
      injection same with first
      exact (slash first).elim
  · next same =>
      injection same with first others
      rw [← first, ← others, if_pos space, counted]
  all_goals contradiction

theorem triviaLength_blockOpening (rest : List Char) :
    triviaLength .between ('/' :: '*' :: rest) =
      triviaLength .blockComment rest + 2 := by
  generalize counted : triviaLength .blockComment rest = count
  unfold triviaLength
  split
  · next same =>
      injection same with _ others
      injection others with second
      exact absurd second (by decide)
  · next same =>
      injection same with _ others
      injection others with _ others
      rw [← others, counted]
  · next notBlock _ same =>
      injection same with first others
      exact (notBlock rest first.symm others.symm).elim
  all_goals contradiction

theorem triviaLength_blockClosing (rest : List Char) :
    triviaLength .blockComment ('*' :: '/' :: rest) =
      triviaLength .between rest + 2 := by
  generalize counted : triviaLength .between rest = count
  unfold triviaLength
  split
  all_goals try contradiction
  · next same =>
      injection same with _ others
      injection others with _ others
      rw [← others, counted]
  · next notEnd _ same =>
      injection same with first others
      exact (notEnd rest first.symm others.symm).elim

theorem triviaLength_blockCharacter {character : Char} {rest : List Char}
    (inside : ¬ ['*', '/'] <+: character :: rest) :
    triviaLength .blockComment (character :: rest) =
      triviaLength .blockComment rest + 1 := by
  generalize counted : triviaLength .blockComment rest = count
  unfold triviaLength
  split
  all_goals try contradiction
  · next others _ same => exact (inside ⟨others, same.symm⟩).elim
  · next same =>
      injection same with _ others
      rw [← others, counted]

/-! ## Skipping what stands in front -/

/-- A block comment is skipped up to its end, which does not come earlier. -/
theorem triviaLength_blockComment (body rest : List Char)
    (complete : ¬ ['*', '/'] <:+: body) :
    triviaLength .blockComment (body ++ '*' :: '/' :: rest) =
      body.length + 2 + triviaLength .between rest := by
  induction body with
  | nil =>
      rw [List.nil_append, triviaLength_blockClosing, List.length_nil]
      omega
  | cons character others inductionHypothesis =>
      have completeOthers : ¬ ['*', '/'] <:+: others := fun found =>
        complete (found.trans (List.suffix_cons character others).isInfix)
      have inside : ¬ ['*', '/'] <+: character :: (others ++ '*' :: '/' :: rest) := by
        intro front
        obtain ⟨same, front⟩ := List.cons_prefix_cons.mp front
        cases others with
        | nil =>
            -- A star in front of the end does not close the comment.
            obtain ⟨slash, -⟩ := List.cons_prefix_cons.mp front
            exact absurd slash (by decide)
        | cons second others =>
            obtain ⟨slash, -⟩ := List.cons_prefix_cons.mp front
            refine complete (List.IsPrefix.isInfix ?_)
            rw [same, slash]
            exact ⟨others, rfl⟩
      rw [List.cons_append, triviaLength_blockCharacter inside,
        inductionHypothesis completeOthers, List.length_cons]
      omega

theorem IsInlineTrivia.triviaLength_append {front : List Char}
    (trivia : IsInlineTrivia front) (rest : List Char) :
    triviaLength .between (front ++ rest) =
      front.length + triviaLength .between rest := by
  induction trivia with
  | nil => rw [List.nil_append, List.length_nil, Nat.zero_add]
  | @space character others space _ _ inductionHypothesis =>
      rw [List.cons_append, triviaLength_space _ space, inductionHypothesis,
        List.length_cons]
      omega
  | @comment body others complete _ _ inductionHypothesis =>
      have split : '/' :: '*' :: (body ++ '*' :: '/' :: others) ++ rest =
          '/' :: '*' :: (body ++ '*' :: '/' :: (others ++ rest)) := by
        simp
      rw [split, triviaLength_blockOpening, triviaLength_blockComment _ _ complete,
        inductionHypothesis]
      simp only [List.length_cons, List.length_append]
      omega

theorem IsInlineTrivia.not_mem {front : List Char}
    (trivia : IsInlineTrivia front) : '\n' ∉ front := by
  induction trivia with
  | nil => exact List.not_mem_nil
  | space _ inline _ inductionHypothesis =>
      exact List.not_mem_cons_of_ne_of_not_mem inline.symm inductionHypothesis
  | comment _ inline _ inductionHypothesis =>
      simp only [List.mem_cons, List.mem_append]
      rintro (same | same | inBody | same | same | inOthers)
      · exact absurd same (by decide)
      · exact absurd same (by decide)
      · exact inline inBody
      · exact absurd same (by decide)
      · exact absurd same (by decide)
      · exact inductionHypothesis inOthers

/-- At the start of a text and of the text behind the trivia, the same token
comes next. -/
theorem IsInlineTrivia.aligned {front : List Char}
    (trivia : IsInlineTrivia front) (rest : List Char) :
    Cursor.Aligned (byteLength front) ⟨0, rest⟩ ⟨0, front ++ rest⟩ := by
  have counted : (Cursor.mk 0 (front ++ rest)).triviaCount =
      front.length + (Cursor.mk 0 rest).triviaCount :=
    trivia.triviaLength_append rest
  have taken : (front ++ rest).take (front.length + (Cursor.mk 0 rest).triviaCount) =
      front ++ rest.take (Cursor.mk 0 rest).triviaCount :=
    List.take_length_add_append ..
  refine ⟨?_, ?_, ?_⟩
  · rw [Cursor.tokenStart, Cursor.tokenStart, counted, Cursor.advance,
      Cursor.advance, Cursor.shift]
    dsimp only
    rw [taken, byteLength_append, List.drop_length_add_append]
    congr 1
    omega
  · rw [Cursor.leadingNewlines, Cursor.leadingNewlines, counted]
    dsimp only
    rw [taken, List.count_append, List.count_eq_zero.mpr trivia.not_mem,
      Nat.zero_add]
  · rw [List.length_append]
    exact Nat.le_add_left _ _

/-! ## Parsing behind it -/

/-- What a text gives, shifted. -/
def shiftParsed (distance : Nat) :
    Except SyntaxError Module → Except SyntaxError Module
  | .ok script => .ok (script.relocate (Span.shift distance))
  | .error error => .error (error.shift distance)

theorem parse_append {front : String} (trivia : IsInlineTrivia front.toList)
    (text : String) :
    parse (front ++ text) =
      shiftParsed (byteLength front.toList) (parse text) := by
  have aligned : Cursor.Aligned (byteLength front.toList) (Cursor.ofText text)
      (Cursor.ofText (front ++ text)) := by
    rw [Cursor.ofText, Cursor.ofText, String.toList_append]
    exact trivia.aligned text.toList
  have depth : (front ++ text).toList.length + 2 =
      text.toList.length + 2 + front.toList.length := by
    rw [String.toList_append, List.length_append]
    omega
  have items := Grammar.echoes_items (Nested.ofDepth_echoes
    (byteLength front.toList) (text.toList.length + 2) front.toList.length) aligned
  have bounded : ∀ error, parse text = .error error → error.problem ≠ .tooDeep :=
    fun error failed => (parse_error_isSound failed).bounded
  rw [← depth] at items
  unfold Parser.Echoes at items
  rw [parse_eq_map] at bounded
  rw [parse_eq_map, parse_eq_map]
  cases ran : Grammar.items (Nested.ofDepth (text.toList.length + 2))
      (Cursor.ofText text) with
  | error error =>
      rw [ran] at items bounded
      rw [items.resolve_left (bounded error rfl)]
      rfl
  | ok outcome =>
      rw [ran] at items
      obtain ⟨found, final, ranBehind, rfl⟩ := items
      rw [ranBehind]
      rfl

/-- An offset further on in a longer text. -/
theorem position_offset_append (front : String) (source : SourceText)
    (offset : Nat) :
    (SourceText.position ⟨source.path, front ++ source.text⟩
      (offset + byteLength front.toList)).offset =
        (source.position offset).offset + byteLength front.toList := by
  have whole : byteLength (front ++ source.text).toList =
      byteLength source.text.toList + byteLength front.toList := by
    rw [String.toList_append, byteLength_append, Nat.add_comm]
  unfold SourceText.position SourceText.characters
  dsimp only
  rw [whole]
  omega

/-- A text behind white space and comments without a line break is parsed
exactly if the text itself is.  The script is the same with all spans shifted
by the bytes before it; an error has the same message, and both offsets of its
location are shifted. -/
theorem parse_behind_trivia (front : String) (source : SourceText)
    (trivia : IsInlineTrivia front.toList) :
    (∀ script, parse source.text = .ok script →
      parse (front ++ source.text) =
        .ok (script.relocate (Span.shift (byteLength front.toList)))) ∧
    ∀ error, parse source.text = .error error →
      ∃ later first last, parse (front ++ source.text) = .error later ∧
        (later.diagnostic ⟨source.path, front ++ source.text⟩).message =
          (error.diagnostic source).message ∧
        (error.diagnostic source).location = some first ∧
        (later.diagnostic ⟨source.path, front ++ source.text⟩).location =
          some last ∧
        last.first.offset = first.first.offset + byteLength front.toList ∧
        last.last.offset = first.last.offset + byteLength front.toList := by
  have shifted := parse_append trivia source.text
  refine ⟨fun script parsed => ?_, fun error failed => ?_⟩
  · rw [parsed] at shifted
    exact shifted
  · rw [failed] at shifted
    refine ⟨_, _, _, shifted, rfl, rfl, rfl, ?_, ?_⟩
    · exact position_offset_append front source error.span.start
    · exact position_offset_append front source error.span.stop

/-- A space and a comment before a text that cannot be parsed. -/
theorem parse_behind_trivia_comment :
    ∃ error later, parse ")" = .error error ∧
      parse " /* * */)" = .error later ∧
      (later.diagnostic ⟨"", " /* * */)"⟩).message =
        (error.diagnostic ⟨"", ")"⟩).message := by
  have trivia : IsInlineTrivia " /* * */".toList := by
    have spelled : " /* * */".toList =
        ' ' :: '/' :: '*' :: ([' ', '*', ' '] ++ '*' :: '/' :: []) := by
      decide
    rw [spelled]
    exact .space (by decide) (by decide) (.comment (by decide) (by decide) .nil)
  have fails : (match parse ")" with
      | .ok _ => false
      | .error _ => true) = true := by
    decide +kernel
  cases ran : parse ")" with
  | ok script =>
      rw [ran] at fails
      cases fails
  | error error =>
      obtain ⟨later, _, _, failed, same, -⟩ :=
        (parse_behind_trivia " /* * */" ⟨"", ")"⟩ trivia).2 error ran
      exact ⟨error, later, rfl, failed, same⟩

end VelocityScript.Script
