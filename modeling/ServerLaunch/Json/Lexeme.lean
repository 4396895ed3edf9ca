import ServerLaunch.Json.Value
import ServerLaunch.Json.Flaw

/-!
# The parts of a document

Reading the parts of which documents are made: white space, words, numbers and
strings. Every reader takes the text from its first character on and gives what it
read together with the rest.

A number ends where it stops being one, so a leading zero or a lone point leaves
something over. An integer of more than `integerLimit` digits is refused although it
is well formed.

## Main definitions

* `Json.ReadError`: a flaw, an integer that is too long, or containers nested too deeply.
* `Json.readWord?`, `Json.readNumber?`, `Json.readString`: the readers.

**Main statement.** Every reader that succeeds has consumed something
(`readWord?_shorter`, `readNumber?_shorter`, `readString_shorter`).
-/
namespace ServerLaunch.Json

/-- What can hold other values. -/
inductive Container where
  | array
  | object
deriving DecidableEq, Repr

/-- Why a text cannot be read as a document. -/
inductive ReadError where
  | flawed (flaw : Flaw)
  | integerTooLong
  | tooDeep (container : Container)
deriving DecidableEq, Repr

/-- The error for a problem in front of `rest`. -/
def flawAt (problem : Problem) (rest : List Char) : ReadError :=
  .flawed ⟨problem, rest.length⟩

/-! ## White space and words -/

/-- The white space between the parts of a document. -/
def isSpace (c : Char) : Bool := c == ' ' || c == '\t' || c == '\n' || c == '\r'

/-- The text from the next part on. -/
def skipSpace (s : List Char) : List Char := s.dropWhile isSpace

theorem length_skipSpace_le (s : List Char) : (skipSpace s).length ≤ s.length :=
  (List.dropWhile_suffix _).length_le

/-- The words that stand for a value; three of them name numbers without digits. -/
def words : List (String × Json) :=
  [("null", .null), ("true", .bool true), ("false", .bool false), ("NaN", .number "NaN"),
    ("Infinity", .number "Infinity"), ("-Infinity", .number "-Infinity")]

/-- The value that a word at the start of the text stands for, and the rest. -/
def readWord? (s : List Char) : Option (Json × List Char) :=
  words.findSome? fun word =>
    if word.1.toList.isPrefixOf s then some (word.2, s.drop word.1.toList.length) else none

/-! ## Numbers -/

/-- The most digits that an integer may have. -/
def integerLimit : Nat := 4300

/-- A number at the start of a text, cut into its parts. -/
structure NumberParts where
  sign : List Char
  whole : List Char
  fraction : List Char
  exponent : List Char
  rest : List Char

/-- The digits of a fraction with the point in front, and the rest. -/
def readFraction : List Char → List Char × List Char
  | '.' :: rest =>
    if (rest.takeWhile Char.isDigit).isEmpty then ([], '.' :: rest)
    else ('.' :: rest.takeWhile Char.isDigit, rest.dropWhile Char.isDigit)
  | rest => ([], rest)

/-- The sign of an exponent, and the rest. -/
def readExponentSign : List Char → List Char × List Char
  | '+' :: rest => (['+'], rest)
  | '-' :: rest => (['-'], rest)
  | rest => ([], rest)

/-- An exponent with its mark and sign, and the rest. -/
def readExponent : List Char → List Char × List Char
  | e :: rest =>
    let sign := readExponentSign rest
    if (e == 'e' || e == 'E') && !(sign.2.takeWhile Char.isDigit).isEmpty then
      (e :: sign.1 ++ sign.2.takeWhile Char.isDigit, sign.2.dropWhile Char.isDigit)
    else ([], e :: rest)
  | [] => ([], [])

/-- The digits before the point, a zero alone or a run that starts with another digit, and
the rest. -/
def readWhole? : List Char → Option (List Char × List Char)
  | [] => none
  | c :: rest =>
    if c = '0' then some (['0'], rest)
    else if c.isDigit then
      some (c :: rest.takeWhile Char.isDigit, rest.dropWhile Char.isDigit)
    else none

/-- The minus sign of a number, and the rest. -/
def readMinus : List Char → List Char × List Char
  | '-' :: rest => (['-'], rest)
  | rest => ([], rest)

/-- The longest number at the start of the text. -/
def readNumber? (s : List Char) : Option NumberParts :=
  (readWhole? (readMinus s).2).map fun whole =>
    let fraction := readFraction whole.2
    let exponent := readExponent fraction.2
    { sign := (readMinus s).1
      whole := whole.1
      fraction := fraction.1
      exponent := exponent.1
      rest := exponent.2 }

/-- The value of a number, unless it is an integer that is too long. -/
def NumberParts.value (parts : NumberParts) : Except ReadError Json :=
  if parts.fraction.isEmpty && parts.exponent.isEmpty && integerLimit < parts.whole.length then
    .error .integerTooLong
  else
    .ok (.number (String.ofList (parts.sign ++ parts.whole ++ parts.fraction ++ parts.exponent)))

/-! ## Strings -/

/-- What a hexadecimal digit counts. -/
def hexValue? (c : Char) : Option Nat :=
  if '0' ≤ c && c ≤ '9' then some (c.toNat - '0'.toNat)
  else if 'a' ≤ c && c ≤ 'f' then some (c.toNat - 'a'.toNat + 10)
  else if 'A' ≤ c && c ≤ 'F' then some (c.toNat - 'A'.toNat + 10)
  else none

/-- The code unit that four hexadecimal digits write. -/
def codeUnit? (a b c d : Char) : Option Nat := do
  let a ← hexValue? a
  let b ← hexValue? b
  let c ← hexValue? c
  let d ← hexValue? d
  pure (((a * 16 + b) * 16 + c) * 16 + d)

/-- The character that a letter after a backslash stands for. -/
def escaped? (c : Char) : Option Char :=
  if c = '"' || c = '\\' || c = '/' then some c
  else if c = 'b' then some (Char.ofNat 0x08)
  else if c = 'f' then some (Char.ofNat 0x0C)
  else if c = 'n' then some '\n'
  else if c = 'r' then some '\r'
  else if c = 't' then some '\t'
  else none

/-- Whether the code unit is the first half of a pair. -/
def isHighHalf (unit : Nat) : Bool := 0xD800 ≤ unit && unit ≤ 0xDBFF

/-- Whether the code unit is the second half of a pair. -/
def isLowHalf (unit : Nat) : Bool := 0xDC00 ≤ unit && unit ≤ 0xDFFF

/-- The code point of a code unit that belongs to no pair. -/
def unitPoint (unit : Nat) : Text.CodePoint :=
  if isHighHalf unit || isLowHalf unit then .half unit else .char (Char.ofNat unit)

/-- The character of a pair of code units. -/
def pairChar (high low : Nat) : Char :=
  Char.ofNat (0x10000 + (high - 0xD800) * 0x400 + (low - 0xDC00))

/-- The text that a sequence of code units writes, each pair as one character. -/
def joinPairs : List Nat → List Text.CodePoint
  | [] => []
  | [unit] => [unitPoint unit]
  | high :: low :: rest =>
    if isHighHalf high && isLowHalf low then .char (pairChar high low) :: joinPairs rest
    else unitPoint high :: joinPairs (low :: rest)

/-- Put a code unit in front of what was read. -/
def consUnit (unit : Nat) (read : Except ReadError (List Nat × List Char)) :
    Except ReadError (List Nat × List Char) :=
  read.map fun (units, rest) => (unit :: units, rest)

/-- The code units of a string from after its opening quote, where `opening` characters
were left, up to its closing quote, and the rest. The text must go on after the digits
of an escape. -/
def readUnits (opening : Nat) : List Char → Except ReadError (List Nat × List Char)
  | [] => .error (.flawed ⟨.openString, opening⟩)
  | '"' :: rest => .ok ([], rest)
  | ['\\'] => .error (.flawed ⟨.openString, opening⟩)
  | '\\' :: 'u' :: a :: b :: c :: d :: next :: rest =>
    match codeUnit? a b c d with
    | some unit => consUnit unit (readUnits opening (next :: rest))
    | none => .error (flawAt .badCodeUnit ('u' :: a :: b :: c :: d :: next :: rest))
  | '\\' :: 'u' :: rest => .error (flawAt .badCodeUnit ('u' :: rest))
  | '\\' :: c :: rest =>
    match escaped? c with
    | some e => consUnit e.toNat (readUnits opening rest)
    | none => .error (flawAt .unknownEscape ('\\' :: c :: rest))
  | c :: rest =>
    if c.toNat < 0x20 then .error (flawAt .controlCharacter (c :: rest))
    else consUnit c.toNat (readUnits opening rest)

/-- The text of a string from after its opening quote up to its closing quote, and the
rest. -/
def readString (s : List Char) : Except ReadError (List Text.CodePoint × List Char) :=
  (readUnits (s.length + 1) s).map fun (units, rest) => (joinPairs units, rest)

/-! ## Progress -/

theorem readWord?_shorter {s rest : List Char} {value : Json}
    (h : readWord? s = some (value, rest)) : rest.length < s.length := by
  obtain ⟨⟨word, v⟩, member, found⟩ := List.exists_of_findSome?_eq_some h
  have nonempty : 0 < word.toList.length := by
    simp only [words, List.mem_cons, Prod.mk.injEq, List.not_mem_nil, or_false] at member
    rcases member with m | m | m | m | m | m <;> rw [m.1] <;> decide
  simp only at found
  split at found
  · rename_i fits
    have le := (List.isPrefixOf_iff_prefix.1 fits).length_le
    simp only [Option.some.injEq, Prod.mk.injEq] at found
    rw [← found.2, List.length_drop]
    omega
  · simp at found

theorem length_readFraction_le (s : List Char) : (readFraction s).2.length ≤ s.length := by
  unfold readFraction
  split
  · split
    · simp
    · have := (List.dropWhile_suffix (l := ‹List Char›) Char.isDigit).length_le
      simp only [List.length_cons]
      omega
  · simp

theorem length_readExponentSign_le (s : List Char) :
    (readExponentSign s).2.length ≤ s.length := by
  unfold readExponentSign
  split <;> simp

theorem length_readExponent_le (s : List Char) : (readExponent s).2.length ≤ s.length := by
  unfold readExponent
  split
  · rename_i rest
    have sign := length_readExponentSign_le rest
    have run := (List.dropWhile_suffix (l := (readExponentSign rest).2) Char.isDigit).length_le
    simp only
    split
    · simp only [List.length_cons]
      omega
    · simp
  · simp

theorem readWhole?_shorter {s whole rest : List Char} (h : readWhole? s = some (whole, rest)) :
    rest.length < s.length := by
  unfold readWhole? at h
  split at h
  · simp at h
  · rename_i tail
    split at h
    · simp only [Option.some.injEq, Prod.mk.injEq] at h
      simp [← h.2]
    · split at h
      · have := (List.dropWhile_suffix (l := tail) Char.isDigit).length_le
        simp only [Option.some.injEq, Prod.mk.injEq] at h
        rw [← h.2, List.length_cons]
        omega
      · simp at h

theorem length_readMinus_le (s : List Char) : (readMinus s).2.length ≤ s.length := by
  unfold readMinus
  split <;> simp

theorem readNumber?_shorter {s : List Char} {parts : NumberParts}
    (h : readNumber? s = some parts) : parts.rest.length < s.length := by
  obtain ⟨⟨whole, after⟩, read, rfl⟩ := Option.map_eq_some_iff.1 h
  have minus := length_readMinus_le s
  have progress := readWhole?_shorter read
  have fraction := length_readFraction_le after
  have exponent := length_readExponent_le (readFraction after).2
  simp only
  omega

theorem consUnit_eq_ok {unit : Nat} {read : Except ReadError (List Nat × List Char)}
    {units : List Nat} {rest : List Char} (h : consUnit unit read = .ok (units, rest)) :
    ∃ units', read = .ok (units', rest) := by
  cases read with
  | error e => simp [consUnit, Except.map] at h
  | ok r =>
    simp only [consUnit, Except.map, Except.ok.injEq, Prod.mk.injEq] at h
    exact ⟨r.1, by rw [← h.2]⟩

theorem readUnits_shorter {opening : Nat} {s rest : List Char} {units : List Nat}
    (h : readUnits opening s = .ok (units, rest)) : rest.length < s.length := by
  fun_induction readUnits opening s generalizing units with
  | case1 => simp at h
  | case2 => simp_all
  | case3 => simp at h
  | case4 a b c d next tail unit _ ih =>
    obtain ⟨_, read⟩ := consUnit_eq_ok h
    have := ih read
    simp only [List.length_cons] at this ⊢
    omega
  | case5 => simp at h
  | case6 => simp at h
  | case7 c tail _ _ e _ ih =>
    obtain ⟨_, read⟩ := consUnit_eq_ok h
    have := ih read
    simp only [List.length_cons] at this ⊢
    omega
  | case8 => simp at h
  | case9 => simp at h
  | case10 c tail _ _ _ _ _ _ ih =>
    obtain ⟨_, read⟩ := consUnit_eq_ok h
    have := ih read
    simp only [List.length_cons] at this ⊢
    omega

theorem readString_shorter {s rest : List Char} {text : List Text.CodePoint}
    (h : readString s = .ok (text, rest)) : rest.length < s.length := by
  unfold readString at h
  cases read : readUnits (s.length + 1) s with
  | error e => simp [read, Except.map] at h
  | ok r =>
    obtain ⟨units, after⟩ := r
    simp only [read, Except.map, Except.ok.injEq, Prod.mk.injEq] at h
    exact h.2 ▸ readUnits_shorter read

end ServerLaunch.Json
