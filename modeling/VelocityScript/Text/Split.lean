/-!
# Cutting texts at separators
-/

namespace VelocityScript

/-- The pieces between the characters that satisfy `separates`.  There is
always one piece more than there are separators. -/
def splitWhere (separates : Char → Bool) : List Char → List (List Char)
  | [] => [[]]
  | character :: rest =>
      match splitWhere separates rest with
      | [] => [[character]]
      | piece :: pieces =>
          if separates character then
            [] :: piece :: pieces
          else
            (character :: piece) :: pieces

theorem splitWhere_ne_nil (separates : Char → Bool) (characters : List Char) :
    splitWhere separates characters ≠ [] := by
  cases characters with
  | nil =>
      simp [splitWhere]
  | cons character rest =>
      rw [splitWhere]
      split
      · simp
      · split <;> simp

/-- Text with `separator` between the pieces. -/
def joinWith (separator : Char) : List (List Char) → List Char
  | [] => []
  | [piece] => piece
  | piece :: pieces => piece ++ separator :: joinWith separator pieces

/-- Joining undoes cutting at one separator. -/
theorem joinWith_splitWhere (separator : Char) (characters : List Char) :
    joinWith separator (splitWhere (· == separator) characters) = characters := by
  induction characters with
  | nil =>
      rfl
  | cons character rest inductionHypothesis =>
      rw [splitWhere]
      split
      · rename_i empty
        exact absurd empty (splitWhere_ne_nil _ rest)
      · rename_i piece pieces cut
        rw [cut] at inductionHypothesis
        split
        · rename_i same
          have same : character = separator := by simpa using same
          simp [joinWith, inductionHypothesis, same]
        · cases pieces with
          | nil =>
              simpa [joinWith] using inductionHypothesis
          | cons next others =>
              simpa [joinWith] using inductionHypothesis

/-- The lines of a text as a reader counts them: a final line break opens no
further line, and a carriage return before a break belongs to the break. -/
def textLines (text : String) : List String :=
  let pieces := splitWhere (· == '\n') text.toList
  let kept := if pieces.getLast? = some [] then pieces.dropLast else pieces
  let broken := pieces.length - 1
  (kept.zipIdx).map fun (piece, index) =>
    if index < broken ∧ piece.getLast? = some '\r' then
      String.ofList piece.dropLast
    else
      String.ofList piece

end VelocityScript
