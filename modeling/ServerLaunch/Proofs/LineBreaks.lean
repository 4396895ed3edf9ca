import ServerLaunch.Json.Reader
import ServerLaunch.Text.Lines

/-!
# Line breaks in the parts of a document

The line breaks of a text may be unified before it is read as a document: a carriage return, alone
or with the line feed after it, becomes a line feed. Between the parts of a document both are white
space, a word or a number ends at both, and a string may hold neither. So each reader of a part
treats two texts alike that are the same but for unified breaks. It reads the same from them and
leaves rests that are again the same but for unified breaks, or it refuses both. Only the places
of flaws differ.

## Main definitions

* `Text.Unified`: a text is another one with its line breaks unified.
* `Json.ReadError.Alike`: two errors say the same, up to the place of a flaw.
* `Json.Agrees`: two outcomes of a reader are the same, up to that.

**Main statements.** The readers of words, numbers and strings agree on texts with unified breaks
(`Json.readWord?_unified`, `Json.readNumber?_unified`, `Json.readString_unified`).
-/
namespace ServerLaunch

namespace Text

/-! ## Texts with unified breaks -/

/-- A character breaks a line in a file. -/
def IsBreak (c : Char) : Prop := c = '\n' ∨ c = '\r'

instance : DecidablePred IsBreak := fun _ => instDecidableOr

/-- The second text is the first one with its line breaks unified. -/
inductive Unified : List Char → List Char → Prop
  | nil : Unified [] []
  | char {s t : List Char} (c : Char) (rest : Unified s t) : Unified (c :: s) (c :: t)
  | single {s t : List Char} (rest : Unified s t) : Unified ('\r' :: s) ('\n' :: t)
  | pair {s t : List Char} (rest : Unified s t) : Unified ('\r' :: '\n' :: s) ('\n' :: t)

theorem unified_unifyNewlines (text : List Char) : Unified text (unifyNewlines text) := by
  fun_induction unifyNewlines text with
  | case1 => exact .nil
  | case2 rest ih => exact .pair ih
  | case3 c rest _ ih =>
    split
    · next carriage => exact carriage ▸ .single ih
    · exact .char c ih

variable {s t : List Char}

/-- A run of characters that are no breaks is the same, and what comes behind it has unified
breaks. -/
theorem Unified.run {p : Char → Bool} (h : Unified s t) (bare : ∀ c, IsBreak c → p c = false) :
    s.takeWhile p = t.takeWhile p ∧ Unified (s.dropWhile p) (t.dropWhile p) := by
  have feed := bare '\n' (.inl rfl)
  have carriage := bare '\r' (.inr rfl)
  induction h with
  | nil => exact ⟨rfl, .nil⟩
  | char c rest ih =>
    cases inside : p c with
    | true => simpa [inside] using ih
    | false => simpa [inside] using .char c rest
  | single rest => simpa [feed, carriage] using .single rest
  | pair rest => simpa [feed, carriage] using .pair rest

/-- A character that is no break stands at the front of both texts or of none. -/
theorem Unified.front_cases {c : Char} (h : Unified s t) (bare : ¬ IsBreak c) :
    (∃ s' t', s = c :: s' ∧ t = c :: t' ∧ Unified s' t') ∨
      (∀ rest, s ≠ c :: rest) ∧ ∀ rest, t ≠ c :: rest := by
  have feed : '\n' ≠ c := fun same => bare (.inl same.symm)
  have carriage : '\r' ≠ c := fun same => bare (.inr same.symm)
  cases h with
  | nil => exact .inr ⟨nofun, nofun⟩
  | @char s t d rest =>
    by_cases same : d = c
    · subst same
      exact .inl ⟨s, t, rfl, rfl, rest⟩
    · exact .inr (by simp [same])
  | single | pair => exact .inr (by simp [feed, carriage])

end Text

namespace Json

open Text (Unified IsBreak)

variable {s t : List Char}

/-- White space has no unified breaks behind it that it would not take. -/
theorem skipSpace_unified (h : Unified s t) : Unified (skipSpace s) (skipSpace t) := by
  induction h with
  | nil => exact .nil
  | char c rest ih =>
    cases space : isSpace c with
    | true => simpa [skipSpace, space] using ih
    | false => simpa [skipSpace, space] using .char c rest
  | single rest ih => exact ih
  | pair rest ih => exact ih

/-! ## Agreement -/

/-- Two errors say the same, up to the place of a flaw and what it is. -/
inductive ReadError.Alike : ReadError → ReadError → Prop
  | flawed (flaw flaw' : Flaw) : Alike (.flawed flaw) (.flawed flaw')
  | integerTooLong : Alike .integerTooLong .integerTooLong
  | tooDeep (container : Container) : Alike (.tooDeep container) (.tooDeep container)

theorem ReadError.Alike.refl (e : ReadError) : e.Alike e := by
  cases e with
  | flawed flaw => exact .flawed _ _
  | integerTooLong => exact .integerTooLong
  | tooDeep container => exact .tooDeep container

/-- Two readers find the same, as a relation says it, or fail alike. -/
inductive Agrees {α β : Type} (Same : α → β → Prop) : Except ReadError α → Except ReadError β → Prop
  | ok {a : α} {b : β} (same : Same a b) : Agrees Same (.ok a) (.ok b)
  | error {e e' : ReadError} (alike : e.Alike e') : Agrees Same (.error e) (.error e')

/-- The same was read, and the rests are the same but for unified breaks. -/
def Beside {α : Type} (r r' : α × List Char) : Prop := r.1 = r'.1 ∧ Unified r.2 r'.2

section

variable {α β γ δ : Type} {Same : α → β → Prop} {Same' : γ → δ → Prop}
  {x : Except ReadError α} {y : Except ReadError β}

/-- Agreement goes through sequencing. -/
theorem Agrees.bind {f : α → Except ReadError γ} {g : β → Except ReadError δ} (h : Agrees Same x y)
    (next : ∀ a b, x = .ok a → Same a b → Agrees Same' (f a) (g b)) :
    Agrees Same' (x.bind f) (y.bind g) := by
  cases h with
  | ok same => exact next _ _ rfl same
  | error alike => exact .error alike

theorem Agrees.map {f : α → γ} {g : β → δ} (h : Agrees Same x y)
    (next : ∀ a b, Same a b → Same' (f a) (g b)) : Agrees Same' (x.map f) (y.map g) := by
  cases h with
  | ok same => exact .ok (next _ _ same)
  | error alike => exact .error alike

end

/-- Two readers that may find nothing find it together, or both find something. -/
theorem rel_cases {α β : Type} {Same : α → β → Prop} {x : Option α} {y : Option β}
    (h : Option.Rel Same x y) :
    (x = none ∧ y = none) ∨ ∃ a b, x = some a ∧ y = some b ∧ Same a b := by
  cases h with
  | none => exact .inl ⟨rfl, rfl⟩
  | some same => exact .inr ⟨_, _, rfl, rfl, same⟩

/-! ## Words -/

/-- A word without breaks stands at the front of both texts or of none. -/
theorem isPrefixOf_unified {word : List Char} (plain : ∀ c ∈ word, ¬ IsBreak c) (h : Unified s t) :
    word.isPrefixOf s = word.isPrefixOf t ∧
      (word.isPrefixOf s = true → Unified (s.drop word.length) (t.drop word.length)) := by
  induction word generalizing s t with
  | nil => exact ⟨rfl, fun _ => h⟩
  | cons c word ih =>
    have own : ¬ IsBreak c := plain c List.mem_cons_self
    cases h with
    | nil => exact ⟨rfl, nofun⟩
    | @char s t c' rest =>
      have later := ih (fun d inside => plain d (List.mem_cons_of_mem _ inside)) rest
      refine ⟨by simp only [List.isPrefixOf, later.1], fun fits => ?_⟩
      simp only [List.isPrefixOf, Bool.and_eq_true] at fits
      exact later.2 fits.2
    | single | pair =>
      have feed : (c == '\n') = false := beq_false_of_ne fun same => own (.inl same)
      have carriage : (c == '\r') = false := beq_false_of_ne fun same => own (.inr same)
      simp [List.isPrefixOf, feed, carriage]

theorem plain_words : ∀ word ∈ words, ∀ c ∈ word.1.toList, ¬ IsBreak c := by
  have plain : ∀ word ∈ words, word.1.toList.all (¬ IsBreak ·) = true := by decide
  intro word listed c inside
  simpa using List.all_eq_true.1 (plain word listed) c inside

theorem readWord?_unified (h : Unified s t) :
    Option.Rel Beside (readWord? s) (readWord? t) := by
  have plain := plain_words
  unfold readWord?
  generalize words = table at plain
  induction table with
  | nil => exact .none
  | cons word table ih =>
    obtain ⟨same, behind⟩ := isPrefixOf_unified (plain word List.mem_cons_self) h
    rw [List.findSome?_cons, List.findSome?_cons, ← same]
    cases fits : word.1.toList.isPrefixOf s with
    | true => exact .some ⟨rfl, behind fits⟩
    | false => exact ih fun other listed => plain other (List.mem_cons_of_mem _ listed)

/-! ## Numbers -/

/-- No digit breaks a line. -/
theorem isDigit_of_isBreak (c : Char) (h : IsBreak c) : c.isDigit = false := by
  rcases h with rfl | rfl <;> rfl

theorem readMinus_unified (h : Unified s t) : Beside (readMinus s) (readMinus t) := by
  rcases h.front_cases (c := '-') (by decide) with ⟨s, t, rfl, rfl, rest⟩ | ⟨bare, bare'⟩
  · exact ⟨rfl, rest⟩
  · rw [readMinus.eq_2 s bare, readMinus.eq_2 t bare']
    exact ⟨rfl, h⟩

theorem readWhole?_unified (h : Unified s t) :
    Option.Rel Beside (readWhole? s) (readWhole? t) := by
  cases h with
  | nil => exact .none
  | char c rest =>
    obtain ⟨digits, behind⟩ := rest.run isDigit_of_isBreak
    simp only [readWhole?, ← digits]
    split
    · exact .some ⟨rfl, rest⟩
    · split
      · exact .some ⟨rfl, behind⟩
      · exact .none
  | single | pair => exact .none

theorem readFraction_unified (h : Unified s t) : Beside (readFraction s) (readFraction t) := by
  rcases h.front_cases (c := '.') (by decide) with ⟨s, t, rfl, rfl, rest⟩ | ⟨bare, bare'⟩
  · obtain ⟨digits, behind⟩ := rest.run isDigit_of_isBreak
    simp only [readFraction, ← digits]
    split
    · exact ⟨rfl, h⟩
    · exact ⟨rfl, behind⟩
  · rw [readFraction.eq_2 s bare, readFraction.eq_2 t bare']
    exact ⟨rfl, h⟩

theorem readExponentSign_unified (h : Unified s t) :
    Beside (readExponentSign s) (readExponentSign t) := by
  rcases h.front_cases (c := '+') (by decide) with ⟨s, t, rfl, rfl, rest⟩ | ⟨plus, plus'⟩
  · exact ⟨rfl, rest⟩
  rcases h.front_cases (c := '-') (by decide) with ⟨s, t, rfl, rfl, rest⟩ | ⟨minus, minus'⟩
  · exact ⟨rfl, rest⟩
  · rw [readExponentSign.eq_3 s plus minus, readExponentSign.eq_3 t plus' minus']
    exact ⟨rfl, h⟩

theorem readExponent_unified (h : Unified s t) : Beside (readExponent s) (readExponent t) := by
  cases h with
  | nil => exact ⟨rfl, .nil⟩
  | char c rest =>
    obtain ⟨sign, after⟩ := readExponentSign_unified rest
    obtain ⟨digits, behind⟩ := after.run isDigit_of_isBreak
    simp only [readExponent, ← sign, ← digits]
    split
    · exact ⟨rfl, behind⟩
    · exact ⟨rfl, .char c rest⟩
  | single rest => exact ⟨rfl, .single rest⟩
  | pair rest => exact ⟨rfl, .pair rest⟩

/-- The same number was read, and the rests are the same but for unified breaks. -/
def NumberParts.Beside (parts parts' : NumberParts) : Prop :=
  parts.value = parts'.value ∧ Unified parts.rest parts'.rest

theorem readNumber?_unified (h : Unified s t) :
    Option.Rel NumberParts.Beside (readNumber? s) (readNumber? t) := by
  obtain ⟨minus, unsigned⟩ := readMinus_unified h
  rcases rel_cases (readWhole?_unified unsigned) with
    ⟨none, none'⟩ | ⟨whole, whole', some, some', same, after⟩
  · rw [readNumber?, readNumber?, none, none']
    exact .none
  · obtain ⟨fraction, behind⟩ := readFraction_unified after
    obtain ⟨exponent, rest⟩ := readExponent_unified behind
    rw [readNumber?, readNumber?, some, some']
    refine .some ⟨?_, rest⟩
    simp only [NumberParts.value, minus, same, fraction, exponent]

/-! ## Strings -/

/-- A hexadecimal digit at the front of a text, and the rest. -/
def hexDigit? : List Char → Option (Nat × List Char)
  | [] => none
  | c :: rest => (hexValue? c).map (·, rest)

/-- The code unit that the four digits of an escape write, and the rest, in which the text has to go
on. -/
def escapedUnit? (s : List Char) : Option (Nat × List Char) :=
  (hexDigit? s).bind fun a => (hexDigit? a.2).bind fun b => (hexDigit? b.2).bind fun c =>
    (hexDigit? c.2).bind fun d =>
      if d.2 = [] then none else some (((a.1 * 16 + b.1) * 16 + c.1) * 16 + d.1, d.2)

/-- The digits of an escape, taken together in `readUnits`, can be read one after the other. -/
theorem readUnits_escapedUnit? (opening : Nat) (s : List Char) :
    readUnits opening ('\\' :: 'u' :: s) =
      match escapedUnit? s with
      | some (unit, rest) => consUnit unit (readUnits opening rest)
      | none => .error (flawAt .badCodeUnit ('u' :: s)) := by
  match s with
  | [] => rfl
  | [a] => cases first : hexValue? a <;> simp [readUnits, escapedUnit?, hexDigit?, first]
  | [a, b] =>
    cases first : hexValue? a <;> cases second : hexValue? b <;>
      simp [readUnits, escapedUnit?, hexDigit?, first, second]
  | [a, b, c] =>
    cases first : hexValue? a <;> cases second : hexValue? b <;> cases third : hexValue? c <;>
      simp [readUnits, escapedUnit?, hexDigit?, first, second, third]
  | [a, b, c, d] =>
    cases first : hexValue? a <;> cases second : hexValue? b <;> cases third : hexValue? c <;>
      cases fourth : hexValue? d <;>
      simp [readUnits, escapedUnit?, hexDigit?, first, second, third, fourth]
  | a :: b :: c :: d :: next :: rest =>
    cases first : hexValue? a <;> cases second : hexValue? b <;> cases third : hexValue? c <;>
      cases fourth : hexValue? d <;>
      simp [readUnits, escapedUnit?, hexDigit?, codeUnit?, first, second, third, fourth]

theorem hexDigit?_unified (h : Unified s t) : Option.Rel Beside (hexDigit? s) (hexDigit? t) := by
  cases h with
  | nil => exact .none
  | char c rest =>
    simp only [hexDigit?]
    cases hexValue? c with
    | none => exact .none
    | some value => exact .some ⟨rfl, rest⟩
  | single | pair => exact .none

/-- What is read one after the other stays the same if each part does. -/
theorem bind_beside {α β : Type} {x y : Option (α × List Char)}
    {f : α × List Char → Option (β × List Char)} {g : α × List Char → Option (β × List Char)}
    (h : Option.Rel Beside x y) (next : ∀ a b, Beside a b → Option.Rel Beside (f a) (g b)) :
    Option.Rel Beside (x.bind f) (y.bind g) := by
  cases h with
  | none => exact .none
  | some same => exact next _ _ same

theorem escapedUnit?_unified (h : Unified s t) :
    Option.Rel Beside (escapedUnit? s) (escapedUnit? t) := by
  refine bind_beside (hexDigit?_unified h) fun a a' first => ?_
  refine bind_beside (hexDigit?_unified first.2) fun b b' second => ?_
  refine bind_beside (hexDigit?_unified second.2) fun c c' third => ?_
  refine bind_beside (hexDigit?_unified third.2) fun d d' fourth => ?_
  rw [first.1, second.1, third.1, fourth.1]
  obtain ⟨d, rest⟩ := d
  obtain ⟨d', rest'⟩ := d'
  have behind : Unified rest rest' := fourth.2
  cases behind with
  | nil => exact .none
  | char c rest => exact .some ⟨rfl, .char c rest⟩
  | single rest => exact .some ⟨rfl, .single rest⟩
  | pair rest => exact .some ⟨rfl, .pair rest⟩

theorem length_hexDigit? {r : Nat × List Char} (h : hexDigit? s = some r) :
    r.2.length < s.length := by
  unfold hexDigit? at h
  split at h
  · cases h
  · obtain ⟨value, -, rfl⟩ := Option.map_eq_some_iff.1 h
    simp

theorem length_escapedUnit? {r : Nat × List Char} (h : escapedUnit? s = some r) :
    r.2.length < s.length := by
  simp only [escapedUnit?, Option.bind_eq_some_iff] at h
  obtain ⟨a, first, b, second, c, third, d, fourth, h⟩ := h
  have := length_hexDigit? first
  have := length_hexDigit? second
  have := length_hexDigit? third
  have := length_hexDigit? fourth
  split at h
  · cases h
  · cases h
    simp only
    omega

theorem consUnit_agrees {opening opening' : Nat} (unit : Nat)
    (h : Agrees Beside (readUnits opening s) (readUnits opening' t)) :
    Agrees Beside (consUnit unit (readUnits opening s)) (consUnit unit (readUnits opening' t)) :=
  h.map fun _ _ same => ⟨congrArg (unit :: ·) same.1, same.2⟩

theorem readUnits_letter {opening : Nat} {c : Char} (letter : c ≠ 'u') (s : List Char) :
    readUnits opening ('\\' :: c :: s) =
      match escaped? c with
      | some e => consUnit e.toNat (readUnits opening s)
      | none => .error (flawAt .unknownEscape ('\\' :: c :: s)) := by
  cases known : escaped? c <;> simp [readUnits, letter, known]

theorem readUnits_plain {opening : Nat} {c : Char} (quote : c ≠ '"') (slash : c ≠ '\\')
    (s : List Char) :
    readUnits opening (c :: s) =
      if c.toNat < 0x20 then .error (flawAt .controlCharacter (c :: s))
      else consUnit c.toNat (readUnits opening s) := by
  simp [readUnits, slash]

/-- Inside a string a break is refused, be it alone or behind a backslash. Only the places of flaws
depend on where the string was opened. -/
theorem readUnits_unified (opening opening' : Nat) (h : Unified s t) :
    Agrees Beside (readUnits opening s) (readUnits opening' t) := by
  -- An escape takes several characters, so the induction is on the length.
  induction n : s.length using Nat.strongRecOn generalizing s t with
  | _ n ih =>
  have behind {s' t' : List Char} (rest : Unified s' t') (shorter : s'.length < s.length)
      (unit : Nat) : Agrees Beside (consUnit unit (readUnits opening s'))
        (consUnit unit (readUnits opening' t')) :=
    consUnit_agrees unit (ih _ (n ▸ shorter) rest rfl)
  cases h with
  | nil | single | pair => exact .error (.flawed _ _)
  | @char s t c rest =>
    by_cases quote : c = '"'
    · subst quote
      exact .ok ⟨rfl, rest⟩
    by_cases slash : c = '\\'
    · subst slash
      cases rest with
      | nil | single | pair => exact .error (.flawed _ _)
      | @char s t c rest =>
        by_cases letter : c = 'u'
        · subst letter
          rw [readUnits_escapedUnit?, readUnits_escapedUnit?]
          rcases rel_cases (escapedUnit?_unified rest) with
            ⟨none, none'⟩ | ⟨unit, unit', some, some', same, after⟩
          · rw [none, none']
            exact .error (.flawed _ _)
          · have shorter := length_escapedUnit? some
            rw [some, some']
            simp only [← same]
            exact behind after (by simp only [List.length_cons]; omega) _
        · rw [readUnits_letter letter, readUnits_letter letter]
          split
          · exact behind rest (by simp only [List.length_cons]; omega) _
          · exact .error (.flawed _ _)
    · rw [readUnits_plain quote slash, readUnits_plain quote slash]
      split
      · exact .error (.flawed _ _)
      · exact behind rest (Nat.lt_succ_self _) _

theorem readString_unified (h : Unified s t) : Agrees Beside (readString s) (readString t) :=
  (readUnits_unified _ _ h).map fun _ _ same => ⟨congrArg joinPairs same.1, same.2⟩

end Json

end ServerLaunch
