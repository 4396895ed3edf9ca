import Mathlib.Algebra.Order.Field.Rat
import Mathlib.Tactic.Positivity
import ServerLaunch.Proofs.Variables

/-!
# Accepted time-outs

A time-out has to be positive, and what is checked is that it is not at most zero. The two differ
for one value: not a number is neither above zero nor at most zero, so it passes the check and a
request is made with it. It can be given, or be written in the variable for the time-out, where
the word for it counts in any case of its letters, with a sign and with space around. Every other
time-out that is accepted is a positive number or positive infinity.

## Main definitions

* `Number.Binary64.number`: the number that a finite value stands for.
* `Number.Binary64.AboveZero`: a value is greater than zero.
* `Number.SaysNan`: a text says that it is no number.

**Main statements.** The check lets through what is above zero, and not a number
(`Number.Binary64.atMostZero_eq_false_iff`). A text reads as not a number exactly if it says so
(`Number.read?_eq_nan_iff`).
-/
namespace ServerLaunch

namespace Number

/-! ## Values above zero -/

namespace Binary64

/-- The number that a finite value stands for. -/
def number (negative : Bool) (significand : Nat) (exponent : Int) : ℚ :=
  (if negative then -1 else 1) * significand * 2 ^ exponent

/-- A value is greater than zero: it is a positive number or positive infinity. -/
inductive AboveZero : Binary64 → Prop
  | infinity : AboveZero (.infinity false)
  | finite {negative : Bool} {significand : Nat} {exponent : Int}
      (above : 0 < number negative significand exponent) :
      AboveZero (.finite negative significand exponent)

theorem number_pos_iff {negative : Bool} {significand : Nat} {exponent : Int} :
    0 < number negative significand exponent ↔ negative = false ∧ significand ≠ 0 := by
  have unit : (0 : ℚ) < 2 ^ exponent := zpow_pos two_pos exponent
  cases negative with
  | true => simp [number, mul_nonneg _ unit.le]
  | false => simp [number, mul_pos_iff_of_pos_right unit, Nat.pos_iff_ne_zero]

theorem not_aboveZero_nan : ¬ AboveZero nan := nofun

theorem aboveZero_finite_iff {negative : Bool} {significand : Nat} {exponent : Int} :
    AboveZero (.finite negative significand exponent) ↔
      negative = false ∧ significand ≠ 0 := by
  rw [← @number_pos_iff negative significand exponent]
  constructor
  · intro h
    cases h with
    | finite above => exact above
  · exact .finite

/-- What is not at most zero is above zero, or it is not a number. -/
theorem atMostZero_eq_false_iff {x : Binary64} :
    x.atMostZero = false ↔ x.AboveZero ∨ x = .nan := by
  cases x with
  | nan => simp [atMostZero]
  | infinity negative =>
    cases negative with
    | true =>
      have below : ¬ AboveZero (.infinity true) := by rintro ⟨⟩
      simpa [atMostZero] using below
    | false => simpa [atMostZero] using AboveZero.infinity
  | finite negative significand exponent => simp [atMostZero, aboveZero_finite_iff]

/-! ## Rounding -/

theorem pack_ne_nan (negative : Bool) (significand : Nat) (exponent : Int) :
    pack negative significand exponent ≠ nan := by
  unfold pack
  split
  split <;> nofun

/-- A fraction is never rounded to not a number. -/
theorem ofRatio_ne_nan (negative : Bool) (num den : Nat) : ofRatio negative num den ≠ nan := by
  unfold ofRatio
  split
  · nofun
  · extract_lets e
    rcases inUnits num den e with ⟨n, d⟩
    exact pack_ne_nan negative _ e

end Binary64

/-- Digits never stand for not a number. -/
theorem Numeral.value_ne_nan (negative : Bool) (n : Numeral) : n.value negative ≠ .nan := by
  unfold value
  split
  · nofun
  · simp only
    split
    · nofun
    · split
      · nofun
      · exact Binary64.ofRatio_ne_nan _ _ _

/-! ## Texts that are no number -/

open ServerLaunch.Text

/-- The signs that may stand in front of a number. -/
def signs : List (List Char) := [[], ['+'], ['-']]

/-- The word for not a number, in any case of its letters. -/
def NanWord (word : List Char) : Prop := word.map Char.toLower = ['n', 'a', 'n']

/-- A text says that it is no number: it is the word for that, with a sign or none, and nothing
but space around it. -/
def SaysNan (text : String) : Prop :=
  ∃ before sign word after, text.toList = before ++ (sign ++ word) ++ after ∧
    (∀ c ∈ before ++ after, isPadding c = true) ∧ sign ∈ signs ∧ NanWord word

/-- The spellings of the word for not a number. -/
def nanWords : List (List Char) :=
  ["nan".toList, "naN".toList, "nAn".toList, "nAN".toList, "Nan".toList, "NaN".toList,
    "NAn".toList, "NAN".toList]

/-- What is a small letter in lower case is that letter or its capital. -/
theorem eq_or_eq_of_toLower {c lower upper : Char} (pair : upper.toNat + 32 = lower.toNat)
    (h : c.toLower = lower) : c = lower ∨ c = upper := by
  delta Char.toLower at h
  split at h
  · next capital =>
    right
    apply Char.toNat_inj.1
    have shifted : (c.val + 32).toNat = lower.toNat := congrArg Char.toNat h
    have bound : c.val.toNat ≤ 90 := capital.2
    have gap : (32 : UInt32).toNat = 32 := rfl
    rw [UInt32.toNat_add] at shifted
    change c.val.toNat = upper.toNat
    omega
  · exact .inl h

theorem nanWord_iff {word : List Char} : NanWord word ↔ word ∈ nanWords := by
  constructor
  · intro spelt
    obtain ⟨c₁, c₂, c₃, rfl⟩ := List.length_eq_three.1 (by simpa using congrArg List.length spelt)
    simp only [NanWord, List.map_cons, List.map_nil, List.cons.injEq, and_true] at spelt
    rcases @eq_or_eq_of_toLower _ _ 'N' rfl spelt.1 with rfl | rfl <;>
      rcases @eq_or_eq_of_toLower _ _ 'A' rfl spelt.2.1 with rfl | rfl <;>
        rcases @eq_or_eq_of_toLower _ _ 'N' rfl spelt.2.2 with rfl | rfl <;> decide
  · revert word
    unfold NanWord
    decide

/-- The word with a sign holds neither padding nor a digit nor a separator, and the sign is told
from the word. -/
theorem signed_nanWord : ∀ sign ∈ signs, ∀ word ∈ nanWords,
    (∀ c ∈ sign ++ word, isPadding c = false ∧ c.isDigit = false ∧ plainDigit c = c ∧ c ≠ '_') ∧
      separatorsFit false (sign ++ word) = true ∧ (readSign (sign ++ word)).2 = word := by
  -- The characters are tested as a list, since there are too many to go through them all.
  have bare : ∀ sign ∈ signs, ∀ word ∈ nanWords, (sign ++ word).all fun c =>
      decide (isPadding c = false ∧ c.isDigit = false ∧ plainDigit c = c ∧ c ≠ '_') := by decide
  have told : ∀ sign ∈ signs, ∀ word ∈ nanWords,
      separatorsFit false (sign ++ word) = true ∧ (readSign (sign ++ word)).2 = word := by decide
  intro sign listed word spelt
  have each := List.all_eq_true.1 (bare sign listed word spelt)
  exact ⟨fun c inside => of_decide_eq_true (each c inside), told sign listed word spelt⟩

/-! ### Reading them -/

/-- The digits of other scripts become ASCII digits, and nothing else is changed. -/
theorem plainDigit_cases (c : Char) : plainDigit c = c ∨ (plainDigit c).isDigit = true := by
  have digits : ∀ n < 10, (digitChar n).isDigit = true := by decide
  unfold plainDigit
  split
  · next n counts => exact .inr (digits n (digitValue?_lt counts))
  · exact .inl rfl

/-- Characters that are no digits once digits are plain were so before. -/
theorem eq_of_map_plainDigit {cs plain : List Char} (h : cs.map plainDigit = plain)
    (bare : ∀ c ∈ plain, c.isDigit = false) : cs = plain := by
  subst h
  refine ((List.map_congr_left fun c inside => ?_).trans (List.map_id cs)).symm
  rcases plainDigit_cases c with same | digit
  · exact same
  · rw [bare _ (List.mem_map_of_mem inside)] at digit
    cases digit

/-- Where separators fit, there is a digit behind each of them. -/
theorem exists_isDigit_of_separatorsFit {before : Bool} {cs : List Char}
    (fit : separatorsFit before cs = true) (separated : '_' ∈ cs) : ∃ c ∈ cs, c.isDigit = true := by
  fun_induction separatorsFit before cs with
  | case1 => cases separated
  | case2 before c rest ih =>
    simp only [Bool.and_eq_true] at fit
    exact ⟨c, by simp, fit.1.2⟩
  | case3 => cases fit
  | case4 before c rest inner last ih =>
    have later : '_' ∈ rest := by
      rcases List.mem_cons.1 separated with first | later
      · cases rest with
        | nil => exact (last first.symm rfl).elim
        | cons c' rest => exact (inner c' rest first.symm rfl).elim
      · exact later
    obtain ⟨c', inside, digit⟩ := ih fit later
    exact ⟨c', List.mem_cons_of_mem c inside, digit⟩

/-- A sign is one of the three, and it is in front of the rest. -/
theorem exists_sign (cs : List Char) : ∃ sign ∈ signs, cs = sign ++ (readSign cs).2 := by
  unfold readSign
  split
  · exact ⟨['-'], by decide, rfl⟩
  · exact ⟨['+'], by decide, rfl⟩
  · exact ⟨[], by decide, rfl⟩

theorem readWord?_eq_nan_iff {negative : Bool} {cs : List Char} :
    readWord? negative cs = some .nan ↔ NanWord cs := by
  have word : String.ofList (cs.map Char.toLower) = "nan" ↔ NanWord cs := by
    rw [← String.toList_inj, String.toList_ofList]
    rfl
  rw [readWord?, ← word]
  generalize String.ofList (cs.map Char.toLower) = lower
  split
  · next infinite =>
    simp only [Bool.or_eq_true, decide_eq_true_eq] at infinite
    rcases infinite with rfl | rfl <;> simp
  · split <;> simp_all

/-- What is read as not a number is the word for it, once digits are plain and separators are
left out. -/
theorem read?_eq_nan_iff_unsigned {text : String} {cs : List Char}
    (plain : (dropBoth isPadding text.toList).map plainDigit = cs) :
    read? text = some .nan ↔
      separatorsFit false cs = true ∧ NanWord (readSign (cs.filter (· != '_'))).2 := by
  simp only [read?, plain]
  by_cases fit : separatorsFit false cs = true
  · rw [if_pos fit, ← @readWord?_eq_nan_iff (readSign (cs.filter (· != '_'))).1]
    generalize readSign (cs.filter (· != '_')) = signed
    cases readWord? signed.1 signed.2 with
    | some x => simp [fit]
    | none => simp [Numeral.value_ne_nan]
  · simp [fit]

/-- Where separators fit and no digits are left without them, there were none: a separator has a
digit behind it. -/
theorem filter_separators_eq_self {cs : List Char} (fit : separatorsFit false cs = true)
    (bare : ∀ c ∈ cs.filter (· != '_'), c.isDigit = false) : cs.filter (· != '_') = cs := by
  rw [List.filter_eq_self]
  intro c inside
  rw [bne_iff_ne]
  rintro rfl
  obtain ⟨d, within, digit⟩ := exists_isDigit_of_separatorsFit fit inside
  have other : d ≠ '_' := by
    rintro rfl
    cases digit
  have plain := bare d (by simp [within, other])
  exact nomatch digit.symm.trans plain

theorem saysNan_of_read {text : String} (h : read? text = some .nan) : SaysNan text := by
  rw [read?_eq_nan_iff_unsigned rfl] at h
  obtain ⟨fit, spelt⟩ := h
  generalize written : (dropBoth isPadding text.toList).map plainDigit = cs at fit spelt
  obtain ⟨sign, listed, split⟩ := exists_sign (cs.filter (· != '_'))
  have bare := (signed_nanWord sign listed _ (nanWord_iff.1 spelt)).1
  rw [← split] at bare
  have single := filter_separators_eq_self fit fun c inside => (bare c inside).2.1
  rw [single] at split bare spelt
  obtain ⟨before, after, text_eq, padding⟩ := exists_eq_append_dropBoth isPadding text.toList
  rw [eq_of_map_plainDigit written fun c inside => (bare c inside).2.1, split] at text_eq
  exact ⟨before, sign, _, after, text_eq, padding, listed, spelt⟩

theorem SaysNan.read?_eq {text : String} (h : SaysNan text) : read? text = some .nan := by
  obtain ⟨before, sign, word, after, split, padding, listed, spelt⟩ := h
  obtain ⟨bare, fit, unsigned⟩ := signed_nanWord sign listed word (nanWord_iff.1 spelt)
  have core : dropBoth isPadding text.toList = sign ++ word := by
    rw [split]
    refine dropBoth_append padding ?_ ?_
    · intro c first
      exact (bare c (List.mem_of_head? first)).1
    · intro c last
      exact (bare c (List.mem_of_getLast? last)).1
  have plain : (sign ++ word).map plainDigit = sign ++ word :=
    (List.map_congr_left fun c inside => (bare c inside).2.2.1).trans (List.map_id _)
  have kept : (sign ++ word).filter (· != '_') = sign ++ word := by
    rw [List.filter_eq_self]
    intro c inside
    simpa using (bare c inside).2.2.2
  rw [read?_eq_nan_iff_unsigned rfl, core, plain, kept, unsigned]
  exact ⟨fit, spelt⟩

/-- **Texts that read as not a number.** They are those that say so, and no others. -/
theorem read?_eq_nan_iff {text : String} : read? text = some .nan ↔ SaysNan text :=
  ⟨saysNan_of_read, SaysNan.read?_eq⟩

end Number

namespace Settings

open Number

/-! ## Time-outs that are accepted -/

/-- An accepted time-out is the one that was given, and it is above zero unless it is not a
number. -/
theorem timeout_of_validate {settings made : Settings} (accepts : validate settings = .ok made) :
    made.timeout = settings.timeout ∧ (made.timeout.AboveZero ↔ settings.timeout ≠ .nan) := by
  obtain ⟨inTime, -, rfl⟩ := validate_eq_ok_iff.1 accepts
  refine ⟨rfl, ?_, (Binary64.atMostZero_eq_false_iff.1 inTime).resolve_right⟩
  intro above missing
  exact Binary64.not_aboveZero_nan (missing ▸ above)

/-- The time-out that is taken from the variables is not a number exactly if its variable says
so. -/
theorem Taken.timeout_eq_nan_iff {environment : List (String × String)} {settings : Settings}
    (taken : Taken environment settings) :
    settings.timeout = .nan ↔
      ∃ text, Fills environment "LARAVEL_LSP_REQUEST_TIMEOUT" text ∧ SaysNan text := by
  have read := taken.timeout
  generalize settings.timeout = timeout at read ⊢
  cases read with
  | @filled text _ fills reads =>
    rw [← Option.some_inj, ← reads, read?_eq_nan_iff]
    refine ⟨fun said => ⟨text, fills, said⟩, ?_⟩
    rintro ⟨other, fills', said⟩
    exact Option.some.inj (fills'.1.symm.trans fills.1) ▸ said
  | unfilled empty =>
    refine iff_of_false (Binary64.ofRatio_ne_nan false 30 1) ?_
    rintro ⟨text, fills, -⟩
    exact empty text fills

/-- **Accepted time-outs.** A time-out is kept as it was given, and it is above zero exactly if it
is a number or infinite. One that is read is above zero exactly if the variable for it does not
say that it is no number; otherwise it is not a number. The check lets that through, whatever the
other choices are. -/
theorem accepted_timeout (environment : List (String × String)) (settings made : Settings) :
    (validate settings = .ok made →
      made.timeout = settings.timeout ∧ (made.timeout.AboveZero ↔ settings.timeout ≠ .nan)) ∧
    (ofEnvironment environment = .ok made →
      (made.timeout.AboveZero ↔ ∀ text,
        Fills environment "LARAVEL_LSP_REQUEST_TIMEOUT" text → ¬ SaysNan text) ∧
      (made.timeout = .nan ↔ ∃ text,
        Fills environment "LARAVEL_LSP_REQUEST_TIMEOUT" text ∧ SaysNan text)) ∧
    (settings.timeout = .nan → HasScheme settings.registry →
      ∃ accepted, validate settings = .ok accepted) := by
  refine ⟨timeout_of_validate, fun read => ?_, fun missing reached =>
    ⟨_, validate_eq_ok_iff.2 ⟨?_, reached, rfl⟩⟩⟩
  · obtain ⟨given, taken, accepts⟩ := exists_taken_of_ofEnvironment read
    obtain ⟨same, above⟩ := timeout_of_validate accepts
    rw [above, same, ne_eq, taken.timeout_eq_nan_iff]
    simp
  · rw [missing]
    rfl

/-- A time-out can be accepted that is not above zero. -/
theorem accepted_nan :
    ¬ ∀ (registry : String) (made : Settings), Made registry made → made.timeout.AboveZero := by
  intro claim
  have read : ofEnvironment [("LARAVEL_LSP_REQUEST_TIMEOUT", "nan")] = .ok { timeout := .nan } := by
    decide +kernel
  exact Binary64.not_aboveZero_nan (claim _ _ (.read read))

end Settings

end ServerLaunch
