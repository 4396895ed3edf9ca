/-!
# Cutting a text

A text cut at every occurrence of a separator, empty pieces included.

## Main definitions

* `pieces`: the pieces between the separators.
* `split`: the same for strings.
-/
namespace ServerLaunch.Text

/-- Put a character in front of the first piece. -/
def consPiece (c : Char) : List (List Char) → List (List Char)
  | [] => [[c]]
  | piece :: rest => (c :: piece) :: rest

/-- The pieces of a text between the separators, one more than there are separators. -/
def pieces (separator : Char) : List Char → List (List Char)
  | [] => [[]]
  | c :: rest =>
    if c = separator then [] :: pieces separator rest else consPiece c (pieces separator rest)

/-- There is always a first piece. -/
theorem pieces_ne_nil (separator : Char) (cs : List Char) : pieces separator cs ≠ [] := by
  cases cs with
  | nil => simp [pieces]
  | cons c rest =>
    simp only [pieces]
    split
    · simp
    · cases pieces separator rest <;> simp [consPiece]

/-- The pieces of a text between the separators. -/
def split (separator : Char) (text : String) : List String :=
  (pieces separator text.toList).map String.ofList

end ServerLaunch.Text
