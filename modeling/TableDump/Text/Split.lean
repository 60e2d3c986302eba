/-! # Pieces of a text

`pieces separator cs` are the parts of a text between the separators, one more than there are
separators.
-/

namespace TableDump.Text
set_option autoImplicit false

/-- Puts a character before the first piece. -/
def addToFirst (c : Char) : List (List Char) → List (List Char)
  | [] => [[c]]
  | piece :: rest => (c :: piece) :: rest

def pieces (separator : Char) : List Char → List (List Char)
  | [] => [[]]
  | c :: rest => if c = separator then [] :: pieces separator rest else addToFirst c (pieces separator rest)

def textPieces (separator : Char) (s : String) : List String :=
  (pieces separator s.toList).map String.ofList

theorem pieces_ne_nil (separator : Char) (cs : List Char) : pieces separator cs ≠ [] := by
  cases cs with
  | nil => simp [pieces]
  | cons c rest =>
    by_cases h : c = separator
    · simp [pieces, h]
    · cases hr : pieces separator rest <;> simp [pieces, h, hr, addToFirst]

/-- Joined by the separator again, the pieces are the text. -/
theorem intercalate_pieces (separator : Char) (cs : List Char) :
    [separator].intercalate (pieces separator cs) = cs := by
  induction cs with
  | nil => simp [pieces, List.intercalate]
  | cons c rest ih =>
    obtain ⟨piece, others, hr⟩ := List.exists_cons_of_ne_nil (pieces_ne_nil separator rest)
    rw [hr] at ih
    by_cases h : c = separator
    · rw [pieces, if_pos h, hr, h]
      simpa [List.intercalate] using ih
    · rw [pieces, if_neg h, hr, addToFirst]
      cases others with
      | nil => simpa [List.intercalate] using ih
      | cons other more => simpa [List.intercalate] using ih

end TableDump.Text
