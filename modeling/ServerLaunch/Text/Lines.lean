/-!
# Lines of a text

A line ends at any of the line boundaries of the character set, not only at a line
feed; a carriage return with the line feed after it is one boundary. A boundary at
the very end of the text opens no further line.

## Main definitions

* `lines`: the lines of a text, without their boundaries.
* `lastLines`: the tail of a text, a bounded number of lines.
* `unifyNewlines`: the text with every carriage return boundary written as a line feed.
-/
namespace ServerLaunch.Text

/-- The characters at which a line ends. -/
def isLineEnd (c : Char) : Bool :=
  (0x0A ≤ c.toNat && c.toNat ≤ 0x0D) || (0x1C ≤ c.toNat && c.toNat ≤ 0x1E)
    || c.toNat == 0x85 || c.toNat == 0x2028 || c.toNat == 0x2029

/-- Put a character in front of the first line. -/
def consLine (c : Char) : List (List Char) → List (List Char)
  | [] => [[c]]
  | line :: rest => (c :: line) :: rest

/-- The lines of a text, in order and without their boundaries. -/
def lines : List Char → List (List Char)
  | [] => []
  | '\r' :: '\n' :: rest => [] :: lines rest
  | c :: rest => if isLineEnd c then [] :: lines rest else consLine c (lines rest)

@[simp] theorem lines_nil : lines [] = [] := rfl

/-- A carriage return and the line feed after it are one boundary. -/
@[simp] theorem lines_crlf (rest : List Char) :
    lines ('\r' :: '\n' :: rest) = [] :: lines rest := by rw [lines]

/-- The last `n` lines of a text joined by line feeds, all of them if there are fewer. -/
def lastLines (n : Nat) (text : String) : String :=
  let all := lines text.toList
  String.ofList (List.intercalate ['\n'] (all.drop (all.length - n)))

/-- The text with a carriage return, alone or before a line feed, written as a line feed. -/
def unifyNewlines : List Char → List Char
  | [] => []
  | '\r' :: '\n' :: rest => '\n' :: unifyNewlines rest
  | c :: rest => (if c = '\r' then '\n' else c) :: unifyNewlines rest

end ServerLaunch.Text
