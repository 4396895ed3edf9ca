/-!
# Flaws of a document

What is wrong with a text that is no JSON document, and where. A flaw remembers how
much of the text was left when it was found, which is what a reader that consumes its
input knows; the position is counted when the message is written.

## Main definitions

* `Json.Problem`: the kinds of flaw.
* `Json.Flaw`: a problem and its place.
* `Json.Flaw.message`: the report, with line, column and position.
-/
namespace ServerLaunch.Json

/-- What is wrong with a text. -/
inductive Problem where
  | byteOrderMark
  | noValue
  | noMemberName
  | noColon
  | noComma
  | moreThanOneValue
  | openString
  | controlCharacter
  | unknownEscape
  | badCodeUnit
deriving DecidableEq, Repr

/-- The report of a problem, without its place. -/
def Problem.report : Problem → String
  | byteOrderMark => "Unexpected UTF-8 BOM (decode using utf-8-sig)"
  | noValue => "Expecting value"
  | noMemberName => "Expecting property name enclosed in double quotes"
  | noColon => "Expecting ':' delimiter"
  | noComma => "Expecting ',' delimiter"
  | moreThanOneValue => "Extra data"
  | openString => "Unterminated string starting at"
  | controlCharacter => "Invalid control character at"
  | unknownEscape => "Invalid \\escape"
  | badCodeUnit => "Invalid \\uXXXX escape"

/-- A problem, found with `left` characters of the text still to be read. -/
structure Flaw where
  problem : Problem
  left : Nat
deriving DecidableEq, Repr

/-- The report of a flaw in `text`: lines and columns count from one, positions from
zero, and only a line feed ends a line. -/
def Flaw.message (flaw : Flaw) (text : List Char) : String :=
  let before := text.take (text.length - flaw.left)
  let line := before.count '\n' + 1
  let column := (before.reverse.takeWhile (· != '\n')).length + 1
  flaw.problem.report ++ ": line " ++ toString line ++ " column " ++ toString column
    ++ " (char " ++ toString before.length ++ ")"

end ServerLaunch.Json
