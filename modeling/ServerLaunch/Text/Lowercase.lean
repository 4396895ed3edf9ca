import ServerLaunch.Text.LetterCase

/-!
# Lower case

A text in small letters: each capital letter becomes its small form, the dotted
capital I becomes an i and a combining dot, and a capital sigma at the end of a word
becomes a final sigma.

## Main definitions

* `smallForm`: the small form of a letter on its own.
* `lowercase`: a whole text in small letters.
-/
namespace ServerLaunch.Text

/-- The small form of a letter on its own; a character that is no capital stays. -/
def smallForm (c : Char) : Char :=
  match smallForms.find? (·.holds c.toNat) with
  | some run => Char.ofNat (run.small + (c.toNat - run.first))
  | none => c

/-- The letter that decides on a sigma: the first of the neighbours that is not passed
over has a case. -/
def besideLetter (neighbours : List Char) : Bool :=
  match neighbours.find? (!passedOver.holds ·) with
  | some c => casedLetters.holds c
  | none => false

/-- The small form of one letter, given the text before it, nearest first, and after it. -/
def lowerLetter (before : List Char) (c : Char) (after : List Char) : List Char :=
  if c = 'Σ' then
    [if besideLetter before && !besideLetter after then 'ς' else 'σ']
  else if c = 'İ' then ['i', Char.ofNat 0x307]
  else [smallForm c]

/-- The small forms of the letters of a text that continues `before`, nearest first. -/
def lowerFrom (before : List Char) : List Char → List Char
  | [] => []
  | c :: after => lowerLetter before c after ++ lowerFrom (c :: before) after

/-- A text in small letters. -/
def lowercase (text : String) : String :=
  String.ofList (lowerFrom [] text.toList)

end ServerLaunch.Text
