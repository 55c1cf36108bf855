import VelocityScript.Proofs.Script.StringSpelling
import VelocityScript.Proofs.Template.Writing

/-!
# Strings from scripts to templates and back

A string literal of a template stands between single or double quotes.  Between
single quotes the text stands for itself; between double quotes, two double
quotes stand for one.  So a literal ends at the first quote of its kind that is
not one of two.

However a string is spelled in a script, it comes out of the literal of the
template that is printed for it.
-/

namespace VelocityScript.Template

/-! ## Reading a literal -/

/-- Reads up to the closing single quote: the value, and what follows. -/
def readSingle? : List Char → Option (List Char × List Char)
  | [] => none
  | '\'' :: rest => some ([], rest)
  | character :: rest =>
      (readSingle? rest).map fun (value, after) => (character :: value, after)

/-- Reads up to the closing double quote: the value, and what follows. -/
def readDouble? : List Char → Option (List Char × List Char)
  | [] => none
  | '"' :: '"' :: rest =>
      (readDouble? rest).map fun (value, after) => ('"' :: value, after)
  | '"' :: rest => some ([], rest)
  | character :: rest =>
      (readDouble? rest).map fun (value, after) => (character :: value, after)

/-- Reads a string literal at the front of a text: its value, and what
follows. -/
def readLiteral? : List Char → Option (List Char × List Char)
  | '\'' :: rest => readSingle? rest
  | '"' :: rest => readDouble? rest
  | _ => none

/-- Text without a single quote is read as it stands. -/
theorem readSingle_append {content : List Char} (free : '\'' ∉ content)
    (after : List Char) :
    readSingle? (content ++ '\'' :: after) = some (content, after) := by
  induction content with
  | nil => rfl
  | cons character others inductionHypothesis =>
      simp only [List.mem_cons, not_or] at free
      obtain ⟨other, freeOthers⟩ := free
      have step : readSingle? (character :: (others ++ '\'' :: after)) =
          (readSingle? (others ++ '\'' :: after)).map fun (value, after) =>
            (character :: value, after) :=
        readSingle?.eq_3 character _ fun same => other same.symm
      rw [List.cons_append, step, inductionHypothesis freeOthers]
      rfl

/-- A double quote that no other one follows closes a literal. -/
theorem readDouble_closing {after : List Char} (ends : after.head? ≠ some '"') :
    readDouble? ('"' :: after) = some ([], after) := by
  cases after with
  | nil => rfl
  | cons next others =>
      refine readDouble?.eq_3 _ fun rest same => ends ?_
      rw [(List.cons.inj same).1]
      rfl

theorem readDouble_other {character : Char} (rest : List Char)
    (other : character ≠ '"') :
    readDouble? (character :: rest) =
      (readDouble? rest).map fun (value, after) => (character :: value, after) :=
  readDouble?.eq_4 character rest (fun _ same _ => other same) other

/-- A double quote is written twice. -/
def doubled (content : List Char) : List Char :=
  content.flatMap fun character =>
    if character = '"' then ['"', '"'] else [character]

/-- Text in which double quotes are doubled is read as the text before, up to a
closing quote that is not followed by another one. -/
theorem readDouble_doubled (content : List Char) {after : List Char}
    (ends : after.head? ≠ some '"') :
    readDouble? (doubled content ++ '"' :: after) = some (content, after) := by
  induction content with
  | nil => exact readDouble_closing ends
  | cons character others inductionHypothesis =>
      rw [doubled, List.flatMap_cons, List.append_assoc, ← doubled]
      by_cases same : character = '"'
      · rw [if_pos same, same]
        have step : readDouble? (['"', '"'] ++ (doubled others ++ '"' :: after)) =
            (readDouble? (doubled others ++ '"' :: after)).map
              fun (value, after) => ('"' :: value, after) := readDouble?.eq_2 _
        rw [step, inductionHypothesis]
        rfl
      · rw [if_neg same, List.singleton_append, readDouble_other _ same,
          inductionHypothesis]
        rfl

/-! ## Printed literals -/

/-- Text at the outermost level is written without indentation. -/
theorem written_outermost (options : LayoutOptions) (content : String)
    (rest : List Piece) (filled : content.isEmpty = false) :
    written options false (.text 0 content :: rest) =
      content.toList ++ written options true rest := by
  have none : indentation options 0 = [] := by
    unfold indentation
    split
    · rfl
    · rfl
  rw [written, filled, none]
  rfl

/-- A string is printed as its content between two quotes of its kind. -/
theorem toList_render_string (options : LayoutOptions) (content : String)
    (quote : Quote) (origin : Origin) :
    ((Node.ofExpression (.ofValue (.string content quote origin))).render
        options).toList =
      quote.character :: (content.toList ++ [quote.character]) := by
  have filled : (String.singleton quote.character).isEmpty = false := by
    cases quote <;> rfl
  rw [toList_render_node]
  show written options false [.text 0 (String.singleton quote.character),
    .text 0 content, .text 0 (String.singleton quote.character)] = _
  rw [written_outermost _ _ _ filled, written_true_text, written_true_text]
  simp [written]

/-- The printed literal of a string is one literal with that value. -/
theorem readLiteral_quoted (options : LayoutOptions) (text : String)
    (origin : Origin) :
    readLiteral? ((Node.ofExpression (.ofValue (.quoted text origin))).render
      options).toList = some (text.toList, []) := by
  unfold Value.quoted
  split
  · next choice =>
      obtain ⟨-, free⟩ := Bool.and_eq_true_iff.mp choice
      rw [toList_render_string]
      refine readSingle_append ?_ []
      simpa using free
  · rw [toList_render_string, String.toList_ofList]
    exact readDouble_doubled text.toList (by simp)

end VelocityScript.Template

namespace VelocityScript

open Script Template

/-- A string survives from a script to a template.  However it is spelled in a
literal of the script, with whatever before and after it, that is read as the
string, up to right after its closing quote.  And what is printed for the
string, in whatever layout, is one literal with the string as its value. -/
theorem string_survives (text : String) :
    (∀ (quote : Char) (spelled : List Char), quote ∈ ['"', '\''] →
      SpellsString quote text.toList spelled →
        ∀ (cursor : Cursor) (rest : List Char),
          cursor.tokenStart.rest = quote :: (spelled ++ quote :: rest) →
            Parser.stringLiteral cursor = .ok (text,
              ⟨cursor.tokenStart.offset +
                byteLength (quote :: (spelled ++ [quote])), rest⟩)) ∧
    ∀ (options : LayoutOptions) (origin : Origin),
      readLiteral? ((Node.ofExpression (.ofValue
        (.quoted text origin))).render options).toList =
          some (text.toList, []) := by
  refine ⟨fun quote spelled isQuote spells cursor rest standing => ?_,
    fun options origin => readLiteral_quoted options text origin⟩
  have read := Parser.stringLiteral_spelled isQuote spells standing
  rw [String.ofList_toList] at read
  exact read

/-- A literal between single quotes, with an escape for its first character and a
backslash before the quote in it. -/
theorem string_survives_escaped :
    Parser.stringLiteral ⟨0, "'\\x41\\'';".toList⟩ = .ok ("A'", ⟨8, [';']⟩) ∧
    readLiteral? ((Node.ofExpression (.ofValue
      (.quoted "A'" none))).render ⟨true, "  ", false⟩).toList =
        some (['A', '\''], []) := by
  have four : IsHexDigitOf 4 '4' := .decimal (by decide)
  have one : IsHexDigitOf 1 '1' := .decimal (by decide)
  have first : SpellsCharacter '\'' 'A' ('\\' :: 'x' :: ['4', '1']) :=
    .twoDigits (.cons four (.cons one .nil)) rfl
  have second : SpellsCharacter '\'' '\'' ['\\', '\''] := .escaped (by decide)
  have spells : SpellsString '\'' "A'".toList ['\\', 'x', '4', '1', '\\', '\''] :=
    .cons first (.cons second .nil)
  have survives := string_survives "A'"
  refine ⟨?_, survives.2 _ _⟩
  exact survives.1 '\'' _ (by decide) spells ⟨0, "'\\x41\\'';".toList⟩ [';']
    (by decide +kernel)

end VelocityScript
