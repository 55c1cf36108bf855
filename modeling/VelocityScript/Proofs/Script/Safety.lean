import VelocityScript.Proofs.Script.SafeStatements
import VelocityScript.Script.Grammar.Item

/-!
# The parser is safe on every text

Whatever the text is, parsing it gives a module or an error of the text: no
bound of the parser is ever exhausted.  All offsets lie between two characters
of the text, those of the location of an error among them.
-/

namespace VelocityScript

/-- The characters in front of a boundary are found again from its offset. -/
theorem charactersWithin_byteLength (before after : List Char) :
    charactersWithin (byteLength before) (before ++ after) = before := by
  induction before with
  | nil =>
      cases after with
      | nil => rfl
      | cons character rest =>
          have positive := character.utf8Size_pos
          simp only [List.nil_append, byteLength, charactersWithin]
          exact if_neg (Nat.not_le.mpr positive)
  | cons character rest inductionHypothesis =>
      have fits : character.utf8Size ≤ byteLength (character :: rest) :=
        Nat.le_add_right _ _
      have left : byteLength (character :: rest) - character.utf8Size =
          byteLength rest := Nat.add_sub_cancel_left _ _
      rw [List.cons_append, charactersWithin, if_pos fits, left,
        inductionHypothesis]

namespace Script

open Cursor (Moves)
open VelocityScript.Script.Parser

/-- The offset of a cursor cuts the text right in front of what is left. -/
theorem Cursor.StandsIn.charactersWithin_append {text : List Char}
    {cursor : Cursor} (stands : cursor.StandsIn text) :
    charactersWithin cursor.offset text ++ cursor.rest = text := by
  obtain ⟨passed, split, counted, -⟩ := stands
  have standing : text = passed ++ cursor.rest := split
  have offset : cursor.offset = byteLength passed := by
    rw [counted]
    exact Nat.zero_add _
  rw [offset, standing, charactersWithin_byteLength]

/-- The location of a boundary is the boundary itself. -/
theorem IsBoundary.position_offset {source : SourceText} {offset : Nat}
    (boundary : IsBoundary source.characters offset) :
    (source.position offset).offset = offset :=
  Nat.min_eq_left boundary.le

/-- A location in a text, from one place of it to another one that does not come
before it. -/
structure LocatedIn (source : SourceText) (location : Location) : Prop where
  ordered : location.first.offset ≤ location.last.offset
  inside : location.last.offset ≤ byteLength source.characters
  starts : IsBoundary source.characters location.first.offset
  stops : IsBoundary source.characters location.last.offset

theorem FitsIn.locatedIn {source : SourceText} {span : Span}
    (fits : FitsIn source.characters span) :
    LocatedIn source (source.location span) := by
  have first : (source.location span).first.offset = span.start :=
    fits.starts.position_offset
  have last : (source.location span).last.offset = span.stop :=
    fits.stops.position_offset
  refine ⟨?_, ?_, ?_, ?_⟩
  · rw [first, last]
    exact fits.ordered
  · rw [last]
    exact fits.stops.le
  · rw [first]
    exact fits.starts
  · rw [last]
    exact fits.stops

/-- A parser succeeds at a later place of the text, or fails with an error of
the text. -/
def Parser.Advances {Result : Type} (text : List Char) (parser : Parser Result)
    (cursor : Cursor) : Prop :=
  Runs text parser cursor fun _ next =>
    next.StandsIn text ∧ cursor.offset < next.offset ∧
      next.offset ≤ byteLength text

theorem Parser.Runs.advances {Result : Type} {text : List Char} {count : Nat}
    {parser : Parser Result} {cursor : Cursor}
    (reads : Reads text (count + 1) parser cursor)
    (stands : cursor.StandsIn text) : Advances text parser cursor := by
  refine reads.mono fun result next moved => ?_
  have later := moved.offset_lt
  exact ⟨stands.after moved, by omega, (stands.after moved).offset_le⟩

/-- What is safe at a place of a text: to cut the text there, to look at what
follows, and to read on with parsers that are deep enough. -/
structure Cursor.IsSafe (text : List Char) (cursor : Cursor) : Prop where
  cut : charactersWithin cursor.offset text ++ cursor.rest = text
  advance : ∀ count, (cursor.advance count).StandsIn text
  token : cursor.tokenStart.StandsIn text
  word : ∀ word, wordAtFront? cursor.rest = some word → word <+: cursor.rest
  number : ∀ first others, cursor.rest = first :: others →
    first.isDigit = true ∨ first = '.' → Advances text number cursor
  escape : ∀ others, cursor.rest = '\\' :: others →
    Advances text (do skip 1; Parser.escape) cursor
  arrowHead : Advances text Grammar.arrowHead cursor
  assignment : ∀ depth, cursor.rest.length < depth →
    Advances text (Nested.ofDepth depth).assignment cursor
  statement : ∀ depth, cursor.rest.length + 1 < depth →
    Advances text (Nested.ofDepth depth).statement cursor
  item : ∀ depth, cursor.rest.length < depth →
    Advances text (Grammar.item (Nested.ofDepth depth)) cursor

theorem Cursor.StandsIn.isSafe {text : List Char} {cursor : Cursor}
    (stands : cursor.StandsIn text) : cursor.IsSafe text where
  cut := stands.charactersWithin_append
  advance _ := stands.after
    (cursor.moves_advance (Nat.zero_le _) (Nat.zero_le _))
  token := stands.after cursor.moves_tokenStart
  word _ found := (wordAtFront?_isPrefix found).1
  number _ _ standing starts :=
    (reads_number stands standing starts).advances stands
  escape _ standing :=
    (reads_backslash stands standing).advances stands
  arrowHead := (Grammar.reads_arrowHead stands).advances stands
  assignment depth short :=
    ((Nested.ofDepth_safe text depth).assignment cursor stands short).advances
      stands
  statement depth short :=
    ((Nested.ofDepth_safe text depth).statement cursor stands short).advances
      stands
  item depth short :=
    (Grammar.reads_item (Nested.ofDepth_safe text depth) stands short).advances
      stands

theorem parse_error_isSound {text : String} {error : SyntaxError}
    (failed : parse text = .error error) : error.IsSound text.toList := by
  have stands : (Cursor.ofText text).StandsIn text.toList := .refl _
  have reads := Grammar.reads_items
    (Nested.ofDepth_safe text.toList (text.toList.length + 2)) stands
    (Nat.lt_add_of_pos_right Nat.two_pos)
  unfold parse at failed
  unfold Reads Runs at reads
  have depth : Nested.within (Cursor.ofText text) =
      Nested.ofDepth (text.toList.length + 2) := rfl
  rw [← depth] at reads
  cases ran : Grammar.items (Nested.within (Cursor.ofText text))
      (Cursor.ofText text) with
  | ok outcome =>
      simp only [ran] at failed
      exact nomatch failed
  | error found =>
      simp only [ran, Except.error.injEq] at failed
      rw [ran, failed] at reads
      exact reads

/-- Every text is parsed within the bounds of the parser.  An error has a
location in the text, with both ends between two characters of it.  At every
place of the text the lexer stays in the text, and assignments, statements and
items are read at a later place or fail with an error that has such a location
too. -/
theorem parse_is_safe (source : SourceText) :
    (∀ error, parse source.text = .error error → error.problem ≠ .tooDeep ∧
      LocatedIn source (source.location error.span)) ∧
    (∀ error, SyntaxError.IsSound source.characters error →
      LocatedIn source (source.location error.span)) ∧
    ∀ cursor : Cursor, cursor.StandsIn source.characters →
      cursor.IsSafe source.characters ∧
        (source.position cursor.offset).offset = cursor.offset := by
  refine ⟨fun error failed => ?_, fun error sound => sound.located.locatedIn,
    fun cursor stands => ⟨stands.isSafe, stands.isBoundary.position_offset⟩⟩
  have sound := parse_error_isSound failed
  exact ⟨sound.bounded, FitsIn.locatedIn sound.located⟩

/-- A literal that is not closed and ends in a character of two bytes. -/
theorem parse_is_safe_unclosed :
    ∃ error, parse "\"ä" = .error error ∧ error.span = ⟨0, 3⟩ ∧
      LocatedIn ⟨"", "\"ä"⟩ (SourceText.location ⟨"", "\"ä"⟩ error.span) := by
  have parsed : (match parse "\"ä" with
      | .ok _ => false
      | .error error => decide (error.span = ⟨0, 3⟩)) = true := by
    decide +kernel
  cases ran : parse "\"ä" with
  | ok module =>
      rw [ran] at parsed
      cases parsed
  | error error =>
      rw [ran] at parsed
      exact ⟨error, rfl, of_decide_eq_true parsed,
        ((parse_is_safe ⟨"", "\"ä"⟩).1 error ran).2⟩

end Script

end VelocityScript
