import ServerLaunch.Proofs.Variables

/-!
# The words of a switch

A switch is read from a word, once the white space around it is gone and its letters are small.
Both steps know the letters of all scripts, while the words are written in ASCII. So it has to be
seen that no other letter turns into one of theirs. Two letters beyond ASCII leave an ASCII letter
when they are made small: the Kelvin sign becomes a k, which is in no word, and the dotted capital I
becomes an i with a dot behind it, which is in no word either. The words are therefore read in any
case of their ASCII letters and in no other spelling.

## Main definitions

* `Text.Foreign`: what a letter beyond ASCII shows when it is made small.
* `Settings.Spells`: a text spells a word.

**Main statements.** A text that is made small is a word without foreign letters exactly if it is
one in any case of its ASCII letters (`Text.lowerFrom_eq_iff`), so a switch is read from the texts
that spell one of its words (`Settings.readSwitch?_eq_some_iff`).
-/
namespace ServerLaunch

namespace Text

/-! ## ASCII capitals -/

theorem toNat_ofNat {n : Nat} (valid : n.isValidChar) : (Char.ofNat n).toNat = n := by
  rw [Char.ofNat, dif_pos valid]
  rfl

/-- A character is one of the capitals of ASCII. -/
def Capital (c : Char) : Prop := 0x41 ≤ c.toNat ∧ c.toNat ≤ 0x5A

theorem toNat_toLower_of_capital {c : Char} (capital : Capital c) :
    c.toLower.toNat = c.toNat + 32 := by
  delta Char.toLower
  split
  · have gap : (32 : UInt32).toNat = 32 := rfl
    change (c.val + 32).toNat = c.val.toNat + 32
    have bound : c.val.toNat ≤ 0x5A := capital.2
    rw [UInt32.toNat_add]
    omega
  · next other => exact absurd capital other

theorem toLower_of_not_capital {c : Char} (other : ¬ Capital c) : c.toLower = c := by
  delta Char.toLower
  split
  · next capital => exact absurd capital other
  · rfl

theorem not_capital_of_beyond {c : Char} (beyond : 128 ≤ c.toNat) : ¬ Capital c := by
  rintro ⟨-, bound⟩
  omega

/-- White space has no case. -/
theorem not_capital_of_isBlank {c : Char} (blank : isBlank c = true) : ¬ Capital c := by
  rintro ⟨floor, ceiling⟩
  simp only [isBlank, Bool.or_eq_true, Bool.and_eq_true, decide_eq_true_eq, beq_iff_eq] at blank
  omega

/-! ## Small forms -/

/-- The run of the ASCII capitals. -/
def capitals : CaseRun := ⟨0x41, 0x5A, 1, 0x61⟩

/-- The run of the Kelvin sign alone. -/
def kelvinSign : CaseRun := ⟨0x212A, 0x212A, 1, 0x6B⟩

/-- A run and its small forms lie beyond ASCII, and all of the small forms are characters. -/
def CaseRun.Beyond (run : CaseRun) : Prop :=
  128 ≤ run.first ∧ 128 ≤ run.small ∧
    (run.small + (run.last - run.first) < 0xD800 ∨
      0xDFFF < run.small ∧ run.small + (run.last - run.first) < 0x110000)

instance (run : CaseRun) : Decidable run.Beyond := by
  unfold CaseRun.Beyond
  infer_instance

/-- Only two runs have small forms in ASCII. -/
theorem smallForms_cases :
    ∀ run ∈ smallForms, run = capitals ∨ run = kelvinSign ∨ run.Beyond := by
  decide +kernel

/-- A character that a letter beyond ASCII can show when it is made small. -/
def Foreign (c : Char) : Prop := c = 'k' ∨ 128 ≤ c.toNat

instance : DecidablePred Foreign := fun _ => instDecidableOr

/-- A small form is that of ASCII, or it belongs to a letter beyond and is foreign. -/
theorem smallForm_cases (c : Char) :
    smallForm c = c.toLower ∨ (128 ≤ c.toNat ∧ Foreign (smallForm c)) := by
  unfold smallForm
  split
  · next run found =>
    have holds := List.find?_some found
    simp only [CaseRun.holds, Bool.and_eq_true, decide_eq_true_eq] at holds
    obtain ⟨⟨floor, ceiling⟩, -⟩ := holds
    rcases smallForms_cases run (List.mem_of_find?_eq_some found) with rfl | rfl | beyond
    · left
      have capital : Capital c := ⟨floor, ceiling⟩
      simp only [capitals] at floor ceiling ⊢
      rw [← Char.toNat_inj, toNat_toLower_of_capital capital, toNat_ofNat (.inl (by omega))]
      omega
    · refine .inr ⟨by simp only [kelvinSign] at floor; omega, .inl ?_⟩
      have only : c.toNat = 0x212A := by
        simp only [kelvinSign] at floor ceiling
        omega
      rw [only]
      rfl
    · obtain ⟨first, small, valid⟩ := beyond
      refine .inr ⟨by omega, .inr ?_⟩
      rw [toNat_ofNat (valid.imp (by omega) (by omega))]
      omega
  · next none =>
    left
    refine (toLower_of_not_capital fun capital => ?_).symm
    have unheld := List.find?_eq_none.1 none capitals (by decide)
    simp [CaseRun.holds, capitals, capital.1, capital.2, Nat.mod_one] at unheld

/-- A letter is made small as in ASCII, or it lies beyond and shows something foreign. -/
theorem lowerLetter_cases (before : List Char) (c : Char) (after : List Char) :
    lowerLetter before c after = [c.toLower] ∨
      (128 ≤ c.toNat ∧ ∃ d ∈ lowerLetter before c after, Foreign d) := by
  unfold lowerLetter
  split
  · next sigma =>
    subst sigma
    refine .inr ⟨by decide, _, List.mem_singleton_self _, .inr ?_⟩
    split <;> decide
  · split
    · next dotted =>
      subst dotted
      exact .inr ⟨by decide, Char.ofNat 0x307, by simp, .inr (by decide)⟩
    · rcases smallForm_cases c with same | ⟨beyond, foreign⟩
      · exact .inl (by rw [same])
      · exact .inr ⟨beyond, _, List.mem_singleton_self _, foreign⟩

/-- A text that is made small is a word without foreign letters exactly if its ASCII letters made
small are. -/
theorem lowerFrom_eq_iff {word : List Char} (own : ∀ d ∈ word, ¬ Foreign d)
    (before cs : List Char) :
    lowerFrom before cs = word ↔ cs.map Char.toLower = word := by
  induction cs generalizing before word with
  | nil => rfl
  | cons c rest ih =>
    rw [lowerFrom, List.map_cons]
    rcases lowerLetter_cases before c rest with same | ⟨beyond, d, shown, foreign⟩
    · rw [same, List.singleton_append]
      cases word with
      | nil => simp
      | cons first word =>
        rw [List.cons.injEq, List.cons.injEq,
          ih (fun d inside => own d (List.mem_cons_of_mem _ inside)) (c :: before)]
    · -- Neither side can give the word: the one shows a foreign letter, the other keeps one.
      constructor
      · rintro rfl
        exact absurd foreign (own d (List.mem_append_left _ shown))
      · rintro rfl
        rw [toLower_of_not_capital (not_capital_of_beyond beyond)] at own
        exact absurd (.inr beyond) (own c List.mem_cons_self)

end Text

namespace Settings

open Text

/-! ## Words -/

/-- A text spells a word: it is the word in any case of its ASCII letters, with nothing but white
space around it. -/
def Spells (word text : String) : Prop :=
  ∃ before core after, text.toList = before ++ core ++ after ∧
    (∀ c ∈ before ++ after, isBlank c = true) ∧ core.map Char.toLower = word.toList

/-- The words for an answer. -/
def wordsFor : Bool → List String
  | true => yesWords
  | false => noWords

/-- The words say something, in letters of their own. -/
theorem own_of_mem_wordsFor :
    ∀ answer, ∀ word ∈ wordsFor answer, word.toList ≠ [] ∧
      ∀ c ∈ word.toList, isBlank c = false ∧ ¬ Foreign c := by
  have own : ∀ answer, ∀ word ∈ wordsFor answer, word.toList ≠ [] ∧
      word.toList.all (fun c => isBlank c = false ∧ ¬ Foreign c) = true := by decide
  intro answer word listed
  refine ⟨(own answer word listed).1, fun c inside => ?_⟩
  simpa using List.all_eq_true.1 (own answer word listed).2 c inside

/-- No word stands for both answers. -/
theorem not_mem_noWords : ∀ word ∈ yesWords, word ∉ noWords := by decide

variable {answer : Bool} {word text : String}

/-- A text spells a word exactly if what is left of it without the white space around it is the
word, once its ASCII letters are small. -/
theorem spells_iff (listed : word ∈ wordsFor answer) :
    Spells word text ↔ (dropBoth isBlank text.toList).map Char.toLower = word.toList := by
  obtain ⟨-, own⟩ := own_of_mem_wordsFor answer word listed
  constructor
  · rintro ⟨before, core, after, split, padding, spelt⟩
    have bare (c : Char) (inside : c ∈ core) : isBlank c = false := by
      cases blank : isBlank c with
      | false => rfl
      | true =>
        have shown : c.toLower ∈ word.toList := spelt ▸ List.mem_map_of_mem inside
        rw [toLower_of_not_capital (not_capital_of_isBlank blank)] at shown
        exact blank.symm.trans (own c shown).1
    have left : dropBoth isBlank text.toList = core := by
      rw [split]
      exact dropBoth_append padding (fun c first => bare c (List.mem_of_head? first))
        fun c last => bare c (List.mem_of_getLast? last)
    rw [left, spelt]
  · intro spelt
    obtain ⟨before, after, split, padding⟩ := exists_eq_append_dropBoth isBlank text.toList
    exact ⟨before, _, after, split, padding, spelt⟩

/-- The texts that spell a word are those whose small form without white space is the word. -/
theorem lowercase_trim_eq_iff (listed : word ∈ wordsFor answer) :
    lowercase (trim text) = word ↔ Spells word text := by
  have own (d : Char) (inside : d ∈ word.toList) : ¬ Foreign d :=
    ((own_of_mem_wordsFor answer word listed).2 d inside).2
  rw [spells_iff listed, ← lowerFrom_eq_iff own [], ← String.toList_inj, lowercase, trim,
    String.toList_ofList, String.toList_ofList]

theorem lowercase_trim_mem_iff :
    lowercase (trim text) ∈ wordsFor answer ↔ ∃ word ∈ wordsFor answer, Spells word text := by
  constructor
  · exact fun listed => ⟨_, listed, (lowercase_trim_eq_iff listed).1 rfl⟩
  · rintro ⟨word, listed, spells⟩
    exact (lowercase_trim_eq_iff listed).2 spells ▸ listed

/-- A switch is read from the texts that spell one of the words for its answer. -/
theorem readSwitch?_eq_some_iff :
    readSwitch? text = some answer ↔ ∃ word ∈ wordsFor answer, Spells word text := by
  rw [← lowercase_trim_mem_iff, readSwitch?]
  have apart := not_mem_noWords (lowercase (trim text))
  cases answer with
  | true => by_cases yes : lowercase (trim text) ∈ yesWords <;> simp [wordsFor, yes]
  | false => by_cases yes : lowercase (trim text) ∈ yesWords <;> simp_all [wordsFor]

theorem readSwitch?_eq_none_iff :
    readSwitch? text = none ↔ ∀ answer, ∀ word ∈ wordsFor answer, ¬ Spells word text := by
  simp only [Option.eq_none_iff_forall_ne_some, ne_eq, readSwitch?_eq_some_iff, not_exists, not_and]

/-- Blanks alone spell no word. -/
theorem not_spells_of_blank (listed : word ∈ wordsFor answer)
    (blank : ∀ c ∈ text.toList, isBlank c = true) : ¬ Spells word text := by
  rw [spells_iff listed, dropBoth_eq_nil_iff.2 blank]
  exact (own_of_mem_wordsFor answer word listed).1.symm

/-- A text with a letter beyond ASCII between its blanks spells no word. -/
theorem not_spells_of_beyond (listed : word ∈ wordsFor answer) {c : Char}
    (inside : c ∈ dropBoth isBlank text.toList) (beyond : 128 ≤ c.toNat) : ¬ Spells word text := by
  rw [spells_iff listed]
  intro spelt
  have shown : c.toLower ∈ word.toList := spelt ▸ List.mem_map_of_mem inside
  rw [toLower_of_not_capital (not_capital_of_beyond beyond)] at shown
  exact ((own_of_mem_wordsFor answer word listed).2 c shown).2 (.inr beyond)

/-! ## The variable -/

variable {environment : List (String × String)}

/-- If nothing else is wrong, settings are read with the answer of the switch, or the switch is
what is reported. -/
theorem ofEnvironment_of_fills (fills : Fills environment "LARAVEL_LSP_AUTO_INSTALL" text)
    (sound : ∀ flaw, Wrong environment flaw → flaw = .notBoolean "LARAVEL_LSP_AUTO_INSTALL" text) :
    (∃ made, ofEnvironment environment = .ok made ∧ readSwitch? text = some made.autoInstall) ∨
      (ofEnvironment environment = .error (.notBoolean "LARAVEL_LSP_AUTO_INSTALL" text) ∧
        readSwitch? text = none) := by
  cases ended : ofEnvironment environment with
  | ok made =>
    obtain ⟨settings, taken, accepts⟩ := exists_taken_of_ofEnvironment ended
    obtain ⟨-, -, rfl⟩ := validate_eq_ok_iff.1 accepts
    have read := taken.autoInstall
    rw [takes_iff, filled?_eq_some_iff.2 fills] at read
    exact .inl ⟨_, rfl, read⟩
  | error flaw =>
    have wrong := (wrong_of_ofEnvironment ended).1
    obtain rfl := sound flaw wrong
    cases wrong with
    | switch _ unread => exact .inr ⟨rfl, unread⟩

/-- **What a switch is read from.** Where no other variable is wrong, settings with the switch on
are read exactly if the variable for it spells a word for yes, and with the switch off exactly if
it spells a word for no; otherwise the variable is reported. It is reported, then, if it holds
nothing but white space, or a letter beyond ASCII between its white space. -/
theorem ofEnvironment_switch (fills : Fills environment "LARAVEL_LSP_AUTO_INSTALL" text)
    (sound : ∀ flaw, Wrong environment flaw → flaw = .notBoolean "LARAVEL_LSP_AUTO_INSTALL" text) :
    ((∃ made, ofEnvironment environment = .ok made ∧ made.autoInstall = true) ↔
      ∃ word ∈ yesWords, Spells word text) ∧
    ((∃ made, ofEnvironment environment = .ok made ∧ made.autoInstall = false) ↔
      ∃ word ∈ noWords, Spells word text) ∧
    (ofEnvironment environment = .error (.notBoolean "LARAVEL_LSP_AUTO_INSTALL" text) ↔
      ∀ word ∈ yesWords ++ noWords, ¬ Spells word text) ∧
    ((∀ c ∈ text.toList, isBlank c = true) ∨
        (∃ c ∈ dropBoth isBlank text.toList, 128 ≤ c.toNat) →
      ofEnvironment environment = .error (.notBoolean "LARAVEL_LSP_AUTO_INSTALL" text)) := by
  have reported : ofEnvironment environment =
        .error (.notBoolean "LARAVEL_LSP_AUTO_INSTALL" text) ↔
      ∀ answer, ∀ word ∈ wordsFor answer, ¬ Spells word text := by
    rw [← readSwitch?_eq_none_iff]
    rcases ofEnvironment_of_fills fills sound with ⟨made, ended, read⟩ | ⟨ended, unread⟩
    · simp [ended, read]
    · simp [ended, unread]
  have answered (answer : Bool) :
      (∃ made, ofEnvironment environment = .ok made ∧ made.autoInstall = answer) ↔
        ∃ word ∈ wordsFor answer, Spells word text := by
    rw [← readSwitch?_eq_some_iff]
    rcases ofEnvironment_of_fills fills sound with ⟨made, ended, read⟩ | ⟨ended, unread⟩
    · simp [ended, read]
    · simp [ended, unread]
  refine ⟨answered true, answered false, ?_, fun unspelt => reported.2 fun answer word listed => ?_⟩
  · rw [reported, Bool.forall_bool' true]
    simp only [List.mem_append, or_imp, forall_and]
    rfl
  · rcases unspelt with blank | ⟨c, inside, beyond⟩
    · exact not_spells_of_blank listed blank
    · exact not_spells_of_beyond listed inside beyond

/-- A word for yes in letters of both cases, with white space of two scripts around it. -/
def paddedYes : String := "\u3000YeS\n"

/-- White space and capitals make no difference to a word. -/
theorem ofEnvironment_switch_padded :
    Fills [("LARAVEL_LSP_AUTO_INSTALL", paddedYes)] "LARAVEL_LSP_AUTO_INSTALL" paddedYes ∧
      (∃ made, ofEnvironment [("LARAVEL_LSP_AUTO_INSTALL", paddedYes)] = .ok made ∧
        made.autoInstall = true) ∧
      ∃ word ∈ yesWords, Spells word paddedYes := by
  have fills : Fills [("LARAVEL_LSP_AUTO_INSTALL", paddedYes)] "LARAVEL_LSP_AUTO_INSTALL"
      paddedYes := ⟨rfl, by decide⟩
  have read : ofEnvironment [("LARAVEL_LSP_AUTO_INSTALL", paddedYes)] = .ok {} := by
    decide +kernel
  have switch := ofEnvironment_switch fills
    fun flaw wrong => absurd wrong (not_wrong_of_ofEnvironment read)
  exact ⟨fills, ⟨_, read, rfl⟩, switch.1.1 ⟨_, read, rfl⟩⟩

end Settings

end ServerLaunch
