import ServerLaunch.Text.Blank

/-!
# Code points

Texts as documents write them, in which half of a surrogate pair may stand alone. Such a
half is no character, but it is not nothing either: two texts that differ in a half are
different.

## Main definitions

* `CodePoint`: a character, or half a pair.
* `CodePoint.ofText`, `CodePoint.text`: characters as code points, and code points shown
  as characters.

**Main statement.** Characters are shown as themselves (`text_ofText`).
-/
namespace ServerLaunch.Text

/-- A character, or the code unit of half a pair that stands alone. -/
inductive CodePoint where
  | char (c : Char)
  | half (unit : Nat)
deriving DecidableEq, Repr

namespace CodePoint

/-- The character that a code point is shown as: the replacement character for a half. -/
def shown : CodePoint → Char
  | char c => c
  | half _ => Char.ofNat 0xFFFD

/-- Whether the code point is a white space character. -/
def isBlank : CodePoint → Bool
  | char c => Text.isBlank c
  | half _ => false

/-- The characters of a text. -/
def ofText (text : String) : List CodePoint := text.toList.map char

/-- Code points shown as a text. -/
def text (points : List CodePoint) : String := String.ofList (points.map shown)

@[simp] theorem text_ofText (s : String) : text (ofText s) = s := by
  simp [text, ofText, Function.comp_def, shown]

end CodePoint

end ServerLaunch.Text
