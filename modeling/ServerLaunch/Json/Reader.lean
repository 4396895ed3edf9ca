import ServerLaunch.Json.Lexeme

/-!
# Reading documents

A text is a document when it holds one value with nothing but white space around it.
The reader goes through the text once, from left to right, and reports the first flaw
it meets. White space is skipped before it looks for the next part, so a flaw is
placed at the character found there. Containers may be nested up to a depth; one too
many is an error where it opens, whatever is in it.

## Main definitions

* `Json.Goal`: what the reader is in the middle of.
* `Json.read`: one value, or the rest of an array or object.
* `Json.parse`: the document that a text is.

**Main statement.** Brackets that open one inside the other are refused however the text goes on,
if they are more than may be (`parse_brackets`).
-/
namespace ServerLaunch.Json

/-- What the reader is in the middle of: a value, or the items or members of a container
whose earlier ones, last first, have been read. -/
inductive Goal where
  | value
  | items (before : List Json)
  | members (before : List (List Text.CodePoint × Json))

/-- A value is nearer to being read than the container that goes on with it. -/
def Goal.rank : Goal → Nat
  | value => 0
  | items _ => 1
  | members _ => 1

/-- What was read, and a rest shorter than the text. -/
abbrev Progress (s : List Char) := Except ReadError { r : Json × List Char // r.2.length < s.length }

/-- Read a value, or the rest of an array or object from its next item or member on, in which
containers may be nested up to `depth`. -/
def read (depth : Nat) (goal : Goal) (s : List Char) : Progress s :=
  match goal with
  | .value =>
    match (readWord? s).attach with
    | some ⟨(value, rest), word⟩ => .ok ⟨(value, rest), readWord?_shorter word⟩
    | none =>
      match s with
      | '"' :: inside =>
        match inner : readString inside with
        | .ok (text, rest) =>
          .ok ⟨(.string text, rest), Nat.lt_succ_of_lt (readString_shorter inner)⟩
        | .error e => .error e
      | '[' :: inside =>
        match depth with
        | 0 => .error (.tooDeep .array)
        | depth + 1 =>
          have shorter := length_skipSpace_le inside
          match first : skipSpace inside with
          | ']' :: rest =>
            .ok ⟨(.array [], rest), by simp only [first, List.length_cons] at shorter ⊢; omega⟩
          | next =>
            match read depth (.items []) next with
            | .ok ⟨r, h⟩ => .ok ⟨r, by simp only [first, List.length_cons] at shorter ⊢; omega⟩
            | .error e => .error e
      | '\x7b' :: inside =>
        match depth with
        | 0 => .error (.tooDeep .object)
        | depth + 1 =>
          have shorter := length_skipSpace_le inside
          match first : skipSpace inside with
          | '\x7d' :: rest =>
            .ok ⟨(.object [], rest), by simp only [first, List.length_cons] at shorter ⊢; omega⟩
          | next =>
            match read depth (.members []) next with
            | .ok ⟨r, h⟩ => .ok ⟨r, by simp only [first, List.length_cons] at shorter ⊢; omega⟩
            | .error e => .error e
      | s =>
        match number : readNumber? s with
        | some parts =>
          match parts.value with
          | .ok value => .ok ⟨(value, parts.rest), readNumber?_shorter number⟩
          | .error e => .error e
        | none => .error (flawAt .noValue s)
  | .items before =>
    match read depth .value s with
    | .error e => .error e
    | .ok ⟨(item, after), h⟩ =>
      have shorter := length_skipSpace_le after
      match mark : skipSpace after with
      | ']' :: rest =>
        .ok ⟨(.array (item :: before).reverse, rest), by
          simp only [mark, List.length_cons] at *; omega⟩
      | ',' :: rest =>
        have shorter' := length_skipSpace_le rest
        match read depth (.items (item :: before)) (skipSpace rest) with
        | .ok ⟨r, h'⟩ => .ok ⟨r, by simp only [mark, List.length_cons] at *; omega⟩
        | .error e => .error e
      | next => .error (flawAt .noComma next)
  | .members before =>
    match s with
    | '"' :: inside =>
      match inner : readString inside with
      | .error e => .error e
      | .ok (name, afterName) =>
        have shorterName := readString_shorter inner
        have shorterColon := length_skipSpace_le afterName
        match colon : skipSpace afterName with
        | ':' :: afterColon =>
          have shorterValue := length_skipSpace_le afterColon
          match read depth .value (skipSpace afterColon) with
          | .error e => .error e
          | .ok ⟨(value, after), h⟩ =>
            have shorter := length_skipSpace_le after
            match mark : skipSpace after with
            | '\x7d' :: rest =>
              .ok ⟨(.object ((name, value) :: before).reverse, rest), by
                simp only [mark, colon, List.length_cons] at *; omega⟩
            | ',' :: rest =>
              have shorter' := length_skipSpace_le rest
              match read depth (.members ((name, value) :: before)) (skipSpace rest) with
              | .ok ⟨r, h'⟩ => .ok ⟨r, by simp only [mark, colon, List.length_cons] at *; omega⟩
              | .error e => .error e
            | next => .error (flawAt .noComma next)
        | next => .error (flawAt .noColon next)
    | s => .error (flawAt .noMemberName s)
termination_by 2 * s.length + goal.rank
decreasing_by
  all_goals simp only [Goal.rank, List.length_cons] at *
  all_goals (try simp only [first] at *)
  all_goals (try simp only [colon, List.length_cons] at *)
  all_goals (try simp only [mark, List.length_cons] at *)
  all_goals omega

/-- The document that a text is, with containers nested up to `depth`. -/
def parse (depth : Nat) (text : List Char) : Except ReadError Json :=
  match text with
  | '\uFEFF' :: _ => .error (flawAt .byteOrderMark text)
  | _ =>
    match read depth .value (skipSpace text) with
    | .error e => .error e
    | .ok ⟨(value, after), _⟩ =>
      match skipSpace after with
      | [] => .ok value
      | rest => .error (flawAt .moreThanOneValue rest)

/-! ## Nesting -/

/-- No word begins with a bracket. -/
theorem readWord?_bracket (rest : List Char) : readWord? ('[' :: rest) = none := rfl

theorem skipSpace_bracket (rest : List Char) : skipSpace ('[' :: rest) = '[' :: rest := rfl

/-- The bracket that opens one array too many is where reading ends. -/
theorem read_brackets (depth : Nat) (rest : List Char) :
    read depth .value (List.replicate (depth + 1) '[' ++ rest) = .error (.tooDeep .array) := by
  induction depth with
  | zero =>
    rw [List.replicate_succ, List.cons_append, read]
    split
    · next word _ => cases (readWord?_bracket _).symm.trans word
    · rfl
  | succ depth ih =>
    -- After its bracket an array goes on with its first item, which is read one level deeper.
    have items : read depth (.items []) (skipSpace (List.replicate (depth + 1) '[' ++ rest)) =
        .error (.tooDeep .array) := by
      change read depth (.items []) (List.replicate (depth + 1) '[' ++ rest) = _
      rw [read, ih]
      rfl
    rw [List.replicate_succ, List.cons_append, read]
    split
    · next word _ => cases (readWord?_bracket _).symm.trans word
    · simp only
      split
      · next close => cases (skipSpace_bracket _).symm.trans close
      · rw [items]

/-- A text that opens one array too many is no document, whatever comes after. -/
theorem parse_brackets (depth : Nat) (rest : List Char) :
    parse depth (List.replicate (depth + 1) '[' ++ rest) = .error (.tooDeep .array) := by
  have value : read depth .value (skipSpace ('[' :: (List.replicate depth '[' ++ rest))) =
      .error (.tooDeep .array) := read_brackets depth rest
  rw [List.replicate_succ, List.cons_append, parse]
  · rw [value]
  · rintro _ ⟨⟩

end ServerLaunch.Json
