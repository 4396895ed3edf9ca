import ServerLaunch.Proofs.LineBreaks

/-!
# Line breaks in a document

A document is the same with its line breaks unified, since the readers of its parts are indifferent
to them. The reader of documents carries the proofs that it moves on; it is first written
without them, as equations in which what follows a part is looked at by its first character only.
A container then closes or goes on in the same way whichever it is.

## Main definitions

* `Json.plainRead`: what is read, without the proof that the rest is shorter.
* `Json.closedOr`, `Json.behindMark`: how a container goes on.
* `Json.ReadsAlike`: the reader agrees with itself on unified breaks, up to a bound.

**Main statement.** A document is the same with its line breaks unified (`parse_unifyNewlines`).
-/
namespace ServerLaunch.Json

open Text (Unified IsBreak)

variable {s t : List Char}

/-! ## Values -/

/-- What is read, without the proof that the rest is shorter. -/
def plainRead (depth : Nat) (goal : Goal) (s : List Char) : Except ReadError (Json × List Char) :=
  (read depth goal s).map Subtype.val

theorem plainRead_shorter {depth : Nat} {goal : Goal} {r : Json × List Char}
    (h : plainRead depth goal s = .ok r) : r.2.length < s.length := by
  unfold plainRead at h
  cases progress : read depth goal s with
  | error e => rw [progress] at h; cases h
  | ok r' =>
    rw [progress] at h
    cases h
    exact r'.2

section

variable {close : Char} {whole : Json} {next : List Char → Except ReadError (Json × List Char)}

/-- The container is complete where its closing character stands; otherwise it goes on. -/
def closedOr (close : Char) (whole : Json)
    (next : List Char → Except ReadError (Json × List Char)) (s : List Char) :
    Except ReadError (Json × List Char) :=
  if (skipSpace s).head? = some close then .ok (whole, (skipSpace s).tail) else next (skipSpace s)

/-- What comes next has a mark in front; without it there is a problem. -/
def behindMark (mark : Char) (missing : Problem)
    (next : List Char → Except ReadError (Json × List Char)) (s : List Char) :
    Except ReadError (Json × List Char) :=
  if s.head? = some mark then next (skipSpace s.tail) else .error (flawAt missing s)

theorem closedOr_closed {rest : List Char} (mark : skipSpace s = close :: rest) :
    closedOr close whole next s = .ok (whole, rest) := by
  simp [closedOr, mark]

theorem closedOr_unclosed (unclosed : ∀ rest, skipSpace s = close :: rest → False) :
    closedOr close whole next s = next (skipSpace s) :=
  if_neg fun front => (List.head?_eq_some_iff.1 front).elim unclosed

theorem behindMark_marked {mark : Char} {missing : Problem} {rest : List Char}
    (front : s = mark :: rest) : behindMark mark missing next s = next (skipSpace rest) := by
  simp [behindMark, front]

theorem behindMark_missing {mark : Char} {missing : Problem}
    (unmarked : ∀ rest, s = mark :: rest → False) :
    behindMark mark missing next s = .error (flawAt missing s) :=
  if_neg fun front => (List.head?_eq_some_iff.1 front).elim unmarked

end

/-! ### The reader as equations -/

theorem plainRead_word {depth : Nat} {r : Json × List Char} (word : readWord? s = some r) :
    plainRead depth .value s = .ok r := by
  unfold plainRead
  rw [read.eq_def]
  simp only
  split
  · next word' _ =>
    cases word.symm.trans word'
    rfl
  · next wordless => simp [word] at wordless

theorem plainRead_string (depth : Nat) (inside : List Char) :
    plainRead depth .value ('"' :: inside) =
      (readString inside).map fun r => (.string r.1, r.2) := by
  unfold plainRead
  rw [read.eq_def]
  simp only
  split
  · next word _ => cases word
  · split
    · next inner => simp only [inner, Except.map]
    · next inner => simp only [inner, Except.map]

theorem plainRead_array (depth : Nat) (inside : List Char) :
    plainRead depth .value ('[' :: inside) =
      match depth with
      | 0 => .error (.tooDeep .array)
      | depth + 1 => closedOr ']' (.array []) (plainRead depth (.items [])) inside := by
  unfold plainRead
  cases depth with
  | zero =>
    rw [read.eq_def]
    simp only
    split
    · next word _ => cases word
    · rfl
  | succ depth =>
    rw [read.eq_def]
    simp only
    split
    · next word _ => cases word
    · split
      · next first =>
        rw [closedOr_closed first]
        rfl
      · next unclosed =>
        rw [closedOr_unclosed unclosed]
        cases read depth (.items []) (skipSpace inside) <;> rfl

theorem plainRead_object (depth : Nat) (inside : List Char) :
    plainRead depth .value ('\x7b' :: inside) =
      match depth with
      | 0 => .error (.tooDeep .object)
      | depth + 1 => closedOr '\x7d' (.object []) (plainRead depth (.members [])) inside := by
  unfold plainRead
  cases depth with
  | zero =>
    rw [read.eq_def]
    simp only
    split
    · next word _ => cases word
    · rfl
  | succ depth =>
    rw [read.eq_def]
    simp only
    split
    · next word _ => cases word
    · split
      · next first =>
        rw [closedOr_closed first]
        rfl
      · next unclosed =>
        rw [closedOr_unclosed unclosed]
        cases read depth (.members []) (skipSpace inside) <;> rfl

theorem plainRead_number (quote : ∀ inside, s ≠ '"' :: inside)
    (bracket : ∀ inside, s ≠ '[' :: inside) (brace : ∀ inside, s ≠ '\x7b' :: inside)
    (wordless : readWord? s = none) (depth : Nat) :
    plainRead depth .value s =
      match readNumber? s with
      | some parts => parts.value.map (·, parts.rest)
      | none => .error (flawAt .noValue s) := by
  unfold plainRead
  rw [read]
  · split
    · next word _ => cases wordless.symm.trans word
    · split
      · next number =>
        simp only [number]
        split
        · next value => simp only [value, Except.map]
        · next value => simp only [value, Except.map]
      · next number => simp only [number, Except.map]
  · exact quote
  · exact bracket
  · exact brace

theorem plainRead_items (depth : Nat) (before : List Json) (s : List Char) :
    plainRead depth (.items before) s =
      (plainRead depth .value s).bind fun r =>
        closedOr ']' (.array (r.1 :: before).reverse)
          (behindMark ',' .noComma (plainRead depth (.items (r.1 :: before)))) r.2 := by
  rw [plainRead, plainRead, read.eq_def depth (.items before)]
  cases read depth .value s with
  | error e => rfl
  | ok r =>
    obtain ⟨⟨item, after⟩, h⟩ := r
    change _ = closedOr ']' (.array (item :: before).reverse) _ after
    simp only
    split
    · next mark =>
      rw [closedOr_closed mark]
      rfl
    · next rest mark =>
      rw [closedOr_unclosed (by simp [mark]), behindMark_marked mark, plainRead]
      cases read depth (.items (item :: before)) (skipSpace rest) <;> rfl
    · next unclosed missing =>
      rw [closedOr_unclosed unclosed, behindMark_missing missing]
      rfl

theorem plainRead_members (depth : Nat) (before : List (List Text.CodePoint × Json))
    (s : List Char) :
    plainRead depth (.members before) ('"' :: s) =
      (readString s).bind fun name =>
        behindMark ':' .noColon (fun s =>
          (plainRead depth .value s).bind fun r =>
            closedOr '\x7d' (.object ((name.1, r.1) :: before).reverse)
              (behindMark ',' .noComma (plainRead depth (.members ((name.1, r.1) :: before)))) r.2)
          (skipSpace name.2) := by
  rw [plainRead, read.eq_def]
  simp only
  split
  · next inner => simp only [inner, Except.map, Except.bind]
  · next name afterName inner =>
    simp only [inner, Except.bind]
    split
    · next afterColon colon =>
      rw [behindMark_marked colon, plainRead]
      cases read depth .value (skipSpace afterColon) with
      | error e => rfl
      | ok r =>
        obtain ⟨⟨value, after⟩, h⟩ := r
        change _ = closedOr '\x7d' (.object ((name, value) :: before).reverse) _ after
        simp only
        split
        · next mark =>
          rw [closedOr_closed mark]
          rfl
        · next rest mark =>
          rw [closedOr_unclosed (by simp [mark]), behindMark_marked mark, plainRead]
          cases read depth (.members ((name, value) :: before)) (skipSpace rest) <;> rfl
        · next unclosed missing =>
          rw [closedOr_unclosed unclosed, behindMark_missing missing]
          rfl
    · next colonless =>
      rw [behindMark_missing colonless]
      rfl

theorem plainRead_members_unnamed {depth : Nat} {before : List (List Text.CodePoint × Json)}
    (unnamed : ∀ inside, s ≠ '"' :: inside) :
    plainRead depth (.members before) s = .error (flawAt .noMemberName s) := by
  unfold plainRead
  rw [read]
  · rfl
  · exact unnamed

/-! ### The reader on unified breaks -/

/-- Unified breaks go on as before in a container, whatever closes it. -/
theorem closedOr_unified {close : Char} {whole : Json}
    {next next' : List Char → Except ReadError (Json × List Char)} (h : Unified s t)
    (bare : ¬ IsBreak close)
    (behind : ∀ s' t', Unified s' t' → s'.length ≤ s.length → Agrees Beside (next s') (next' t')) :
    Agrees Beside (closedOr close whole next s) (closedOr close whole next' t) := by
  have skipped := skipSpace_unified h
  rcases skipped.front_cases bare with ⟨_, _, closed, closed', rest⟩ | ⟨unclosed, unclosed'⟩
  · rw [closedOr_closed closed, closedOr_closed closed']
    exact .ok ⟨rfl, rest⟩
  · rw [closedOr_unclosed unclosed, closedOr_unclosed unclosed']
    exact behind _ _ skipped (length_skipSpace_le s)

theorem behindMark_unified {mark : Char} {missing : Problem}
    {next next' : List Char → Except ReadError (Json × List Char)} (h : Unified s t)
    (bare : ¬ IsBreak mark)
    (behind : ∀ s' t', Unified s' t' → s'.length ≤ s.length → Agrees Beside (next s') (next' t')) :
    Agrees Beside (behindMark mark missing next s) (behindMark mark missing next' t) := by
  rcases h.front_cases bare with ⟨s, t, rfl, rfl, rest⟩ | ⟨unmarked, unmarked'⟩
  · rw [behindMark_marked rfl, behindMark_marked rfl]
    exact behind _ _ (skipSpace_unified rest) (Nat.le_succ_of_le (length_skipSpace_le s))
  · rw [behindMark_missing unmarked, behindMark_missing unmarked']
    exact .error (.flawed _ _)

theorem Goal.rank_le (goal : Goal) : goal.rank ≤ 1 := by
  cases goal with
  | value => exact Nat.zero_le 1
  | items | members => exact Nat.le_refl 1

/-- The reader reads the same with the breaks unified, as far as what it recurses on is below a
bound. -/
def ReadsAlike (bound : Nat) : Prop :=
  ∀ (depth : Nat) (goal : Goal) {s t : List Char}, Unified s t → 2 * s.length + goal.rank < bound →
    Agrees Beside (plainRead depth goal s) (plainRead depth goal t)

theorem readValue_unified (h : Unified s t) :
    Agrees Beside
      (match readNumber? s with
        | some parts => parts.value.map (·, parts.rest)
        | none => .error (flawAt .noValue s))
      (match readNumber? t with
        | some parts => parts.value.map (·, parts.rest)
        | none => .error (flawAt .noValue t)) := by
  rcases rel_cases (readNumber?_unified h) with
    ⟨none, none'⟩ | ⟨parts, parts', some, some', same, rest⟩
  · rw [none, none']
    exact .error (.flawed _ _)
  · rw [some, some']
    simp only [same]
    cases parts'.value with
    | error e => exact .error (.refl e)
    | ok value => exact .ok ⟨rfl, rest⟩

section

variable {goal : Goal} {close : Char} {whole : Json} {bound : Nat}

/-- A container is opened alike. -/
theorem ReadsAlike.opening (alike : ReadsAlike bound) (depth : Nat) (h : Unified s t)
    (bare : ¬ IsBreak close) (below : 2 * s.length + 1 < bound) :
    Agrees Beside (closedOr close whole (plainRead depth goal) s)
      (closedOr close whole (plainRead depth goal) t) := by
  refine closedOr_unified h bare fun s' t' rest shorter => alike depth goal rest ?_
  have := goal.rank_le
  omega

/-- Behind one of its parts a container goes on alike. -/
theorem ReadsAlike.onward (alike : ReadsAlike bound) (depth : Nat) (h : Unified s t)
    (bare : ¬ IsBreak close) (below : 2 * s.length + 1 < bound) :
    Agrees Beside (closedOr close whole (behindMark ',' .noComma (plainRead depth goal)) s)
      (closedOr close whole (behindMark ',' .noComma (plainRead depth goal)) t) := by
  refine closedOr_unified h bare fun s₁ t₁ rest shorter₁ => ?_
  refine behindMark_unified rest (by decide) fun s₂ t₂ rest shorter₂ => alike depth goal rest ?_
  have := goal.rank_le
  omega

end

theorem ReadsAlike.value (alike : ReadsAlike (2 * s.length)) (depth : Nat) (h : Unified s t) :
    Agrees Beside (plainRead depth .value s) (plainRead depth .value t) := by
  rcases rel_cases (readWord?_unified h) with
    ⟨wordless, wordless'⟩ | ⟨_, _, word, word', same⟩
  · rcases h.front_cases (c := '"') (by decide) with ⟨s, t, rfl, rfl, rest⟩ | ⟨quote, quote'⟩
    · rw [plainRead_string, plainRead_string]
      exact (readString_unified rest).map fun _ _ same =>
        ⟨congrArg Json.string same.1, same.2⟩
    rcases h.front_cases (c := '[') (by decide) with ⟨s, t, rfl, rfl, rest⟩ | ⟨bracket, bracket'⟩
    · rw [plainRead_array, plainRead_array]
      cases depth with
      | zero => exact .error (.tooDeep .array)
      | succ depth => exact alike.opening depth rest (by decide) (by rw [List.length_cons]; omega)
    rcases h.front_cases (c := '\x7b') (by decide) with ⟨s, t, rfl, rfl, rest⟩ | ⟨brace, brace'⟩
    · rw [plainRead_object, plainRead_object]
      cases depth with
      | zero => exact .error (.tooDeep .object)
      | succ depth => exact alike.opening depth rest (by decide) (by rw [List.length_cons]; omega)
    · rw [plainRead_number quote bracket brace wordless,
        plainRead_number quote' bracket' brace' wordless']
      exact readValue_unified h
  · rw [plainRead_word word, plainRead_word word']
    exact .ok same

theorem ReadsAlike.items (alike : ReadsAlike (2 * s.length + 1)) (depth : Nat) (before : List Json)
    (h : Unified s t) :
    Agrees Beside (plainRead depth (.items before) s) (plainRead depth (.items before) t) := by
  rw [plainRead_items, plainRead_items]
  refine (alike depth .value h (Nat.lt_succ_self _)).bind fun r r' found same => ?_
  have shorter := plainRead_shorter found
  rw [same.1]
  exact alike.onward depth same.2 (by decide) (by omega)

theorem ReadsAlike.members (alike : ReadsAlike (2 * s.length + 1)) (depth : Nat)
    (before : List (List Text.CodePoint × Json)) (h : Unified s t) :
    Agrees Beside (plainRead depth (.members before) s) (plainRead depth (.members before) t) := by
  rcases h.front_cases (c := '"') (by decide) with ⟨s, t, rfl, rfl, inside⟩ | ⟨unnamed, unnamed'⟩
  · rw [plainRead_members, plainRead_members]
    refine (readString_unified inside).bind fun name name' found same => ?_
    have shorterName := readString_shorter found
    have shorterColon := length_skipSpace_le name.2
    rw [same.1]
    refine behindMark_unified (skipSpace_unified same.2) (by decide) fun s₁ t₁ rest shorter₁ => ?_
    have below : 2 * s₁.length + 1 < 2 * ('"' :: s).length + 1 := by
      rw [List.length_cons]
      omega
    refine (alike depth .value rest (Nat.lt_of_succ_lt below)).bind fun r r' found same => ?_
    have shorter := plainRead_shorter found
    rw [same.1]
    exact alike.onward depth same.2 (by decide) (by omega)
  · rw [plainRead_members_unnamed unnamed, plainRead_members_unnamed unnamed']
    exact .error (.flawed _ _)

/-- The reader reads the same with the breaks unified. -/
theorem readsAlike (bound : Nat) : ReadsAlike bound := by
  induction bound using Nat.strongRecOn with
  | _ bound ih =>
  intro depth goal s t h below
  cases goal with
  | value => exact (ih _ below).value depth h
  | items before => exact (ih _ below).items depth before h
  | members before => exact (ih _ below).members depth before h

/-! ## Documents -/

theorem parse_markless (markless : ∀ rest, s ≠ '\uFEFF' :: rest) (depth : Nat) :
    parse depth s = (plainRead depth .value (skipSpace s)).bind fun r =>
      match skipSpace r.2 with
      | [] => .ok r.1
      | rest => .error (flawAt .moreThanOneValue rest) := by
  rw [parse, plainRead]
  · cases read depth .value (skipSpace s) <;> rfl
  · exact markless

/-- **A document is the same with its line breaks unified.** A text that is none is refused for a
reason of the same kind. -/
theorem parse_unifyNewlines (depth : Nat) (text : List Char) :
    Agrees Eq (parse depth text) (parse depth (Text.unifyNewlines text)) := by
  have h := Text.unified_unifyNewlines text
  generalize Text.unifyNewlines text = unified at h
  rcases h.front_cases (c := '\uFEFF') (by decide) with ⟨s, t, rfl, rfl, _⟩ | ⟨bare, bare'⟩
  · exact .error (.flawed _ _)
  · rw [parse_markless bare, parse_markless bare']
    refine (readsAlike _ depth .value (skipSpace_unified h) (Nat.lt_succ_self _)).bind
      fun r r' _ same => ?_
    have skipped := skipSpace_unified same.2
    generalize skipSpace r.2 = rest at skipped
    generalize skipSpace r'.2 = rest' at skipped
    cases skipped with
    | nil => exact .ok same.1
    | char | single | pair => exact .error (.flawed _ _)

end ServerLaunch.Json
