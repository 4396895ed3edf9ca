import Mathlib.Data.List.Basic
import ServerLaunch.Proofs.Convergence

/-!
# Versions that agree

Versions are compared by what their texts say. White space around a text says nothing, and neither
do the letters `v` in front of what is left. What is said is the core of a version: it does not
begin with a `v` and does not end in white space. It may begin with white space, since the letters
are dropped last and what they hid stays.

A version with a core can be written in one way only, so the core and the number of letters are
known from the text. That makes agreement symmetric and transitive. It is not reflexive: a version
of nothing but letters and white space has no core.

## Main definitions

* `Version.IsCore`: what a version can say.
* `Version.Wraps`: a version is written around a core.

**Main statements.** Whatever is left of a version is its core (`Version.wraps_normalize`), and a
core is what is left (`Version.Wraps.normalize_eq`).
-/
namespace ServerLaunch

namespace Version

open Text (CodePoint)

/-! ## Cores -/

/-- What a version can say: something that does not begin with the letter `v` and does not end in
white space. -/
structure IsCore (core : List CodePoint) : Prop where
  telling : core ≠ []
  bare : core.head? ≠ some (.char 'v')
  closed : ∀ point, core.getLast? = some point → point.isBlank = false

/-- A core begins with white space. -/
def BlankFirst (core : List CodePoint) : Prop :=
  ∃ point, core.head? = some point ∧ point.isBlank = true

/-- A version is written around a core: a number of letters `v` in front of it, and white space
around both. -/
def Wraps (version : Version) (letters : Nat) (core : List CodePoint) : Prop :=
  ∃ before after,
    version.points = before ++ (List.replicate letters (.char 'v') ++ core) ++ after ∧
      ∀ point ∈ before ++ after, point.isBlank = true

variable {version a b c : Version} {core : List CodePoint} {letters : Nat}

/-- A letter is no white space. -/
theorem isBlank_letter : (CodePoint.char 'v').isBlank = false := by decide

/-- The letters that are dropped are a run of them. -/
theorem takeWhile_letter (points : List CodePoint) :
    points.takeWhile (· == .char 'v') =
      List.replicate (points.takeWhile (· == .char 'v')).length (.char 'v') := by
  refine List.eq_replicate_of_mem fun point inside => ?_
  exact eq_of_beq (List.all_eq_true.1 List.all_takeWhile point inside)

/-- What is left of a version is a core that the version is written around. If the core begins
with white space, letters hid it. -/
theorem wraps_normalize (telling : version.normalize ≠ empty) :
    IsCore version.normalize.points ∧ ∃ letters, version.Wraps letters version.normalize.points ∧
      (BlankFirst version.normalize.points → 1 ≤ letters) := by
  obtain ⟨before, after, split, padding⟩ :=
    Text.exists_eq_append_dropBoth CodePoint.isBlank version.points
  have first := @Text.not_of_head?_dropBoth _ CodePoint.isBlank version.points
  have last := @Text.not_of_getLast?_dropBoth _ CodePoint.isBlank version.points
  have some_core : version.normalize.points ≠ [] := fun void => telling (congrArg mk void)
  simp only [normalize] at some_core ⊢
  generalize Text.dropBoth CodePoint.isBlank version.points = middle at split first last some_core ⊢
  have cut : List.replicate (middle.takeWhile (· == .char 'v')).length (.char 'v') ++
      middle.dropWhile (· == .char 'v') = middle := by
    rw [← takeWhile_letter, List.takeWhile_append_dropWhile]
  generalize (middle.takeWhile (· == .char 'v')).length = letters at cut
  have bare := List.head?_dropWhile_not (· == CodePoint.char 'v') middle
  generalize middle.dropWhile (· == .char 'v') = core at cut bare some_core ⊢
  refine ⟨⟨some_core, ?_, fun point ends => last ?_⟩,
    letters, ⟨before, after, by rw [cut, split], padding⟩, ?_⟩
  · intro begins
    simp [begins] at bare
  · rw [← cut, List.getLast?_append_of_ne_nil _ some_core, ends]
  · rintro ⟨point, begins, blank⟩
    refine Nat.one_le_iff_ne_zero.2 ?_
    rintro rfl
    have seen : point.isBlank = false := first (by rw [← cut]; exact begins)
    rw [seen] at blank
    cases blank

/-- A core is what is left of a version that is written around it. -/
theorem Wraps.normalize_eq (wraps : version.Wraps letters core) (isCore : IsCore core)
    (hidden : BlankFirst core → 1 ≤ letters) : version.normalize = ⟨core⟩ := by
  obtain ⟨before, after, split, padding⟩ := wraps
  have middle : Text.dropBoth CodePoint.isBlank version.points =
      List.replicate letters (.char 'v') ++ core := by
    rw [split]
    refine Text.dropBoth_append padding (fun point begins => ?_) fun point ends => ?_
    · cases letters with
      | zero =>
        cases blank : point.isBlank with
        | false => rfl
        | true => exact absurd (hidden ⟨point, by simpa using begins, blank⟩) (by decide)
      | succ letters =>
        rw [List.replicate_succ, List.cons_append, List.head?_cons, Option.some.injEq] at begins
        exact begins ▸ isBlank_letter
    · rw [List.getLast?_append_of_ne_nil _ isCore.telling] at ends
      exact isCore.closed point ends
  have kept : core.dropWhile (· == .char 'v') = core := by
    cases core with
    | nil => rfl
    | cons point rest =>
      refine List.dropWhile_cons_of_neg ?_
      simpa using isCore.bare
  rw [normalize, middle, List.dropWhile_append_of_pos (by simp), kept]

/-! ## Agreement -/

theorem agrees_some_iff :
    agrees (some a) b = true ↔ a.normalize ≠ empty ∧ a.normalize = b.normalize := by
  simp [agrees]

/-- Versions agree if they are written around the same core. -/
theorem agrees_iff_exists_core :
    agrees (some a) b = true ↔ ∃ core j k, IsCore core ∧ a.Wraps j core ∧ b.Wraps k core ∧
      (BlankFirst core → 1 ≤ j ∧ 1 ≤ k) := by
  rw [agrees_some_iff]
  constructor
  · rintro ⟨telling, same⟩
    obtain ⟨isCore, j, around, hidden⟩ := wraps_normalize telling
    obtain ⟨-, k, around', hidden'⟩ := wraps_normalize (same ▸ telling)
    rw [← same] at around' hidden'
    exact ⟨_, j, k, isCore, around, around', fun blank => ⟨hidden blank, hidden' blank⟩⟩
  · rintro ⟨core, j, k, isCore, around, around', hidden⟩
    have left := around.normalize_eq isCore fun blank => (hidden blank).1
    have left' := around'.normalize_eq isCore fun blank => (hidden blank).2
    rw [left, left']
    exact ⟨fun void => isCore.telling (congrArg points void), rfl⟩

/-- **When versions agree.** An installed version agrees with the latest one exactly if both are
written around the same core, with letters in front of a core that begins with white space.
Agreement is symmetric and transitive; a version agrees with itself exactly if it has a point
that is no `v` between the white space around it; and what is not installed agrees with nothing. -/
theorem agrees_iff_same_core :
    (∀ installed latest : Version, agrees (some installed) latest = true ↔
      ∃ core j k, IsCore core ∧ installed.Wraps j core ∧ latest.Wraps k core ∧
        (BlankFirst core → 1 ≤ j ∧ 1 ≤ k)) ∧
    (∀ a b : Version, agrees (some a) b = true ↔ agrees (some b) a = true) ∧
    (∀ a b c : Version, agrees (some a) b = true → agrees (some b) c = true →
      agrees (some a) c = true) ∧
    (∀ version : Version, agrees (some version) version = true ↔ version.Significant) ∧
    ∀ latest : Version, agrees none latest = false := by
  refine ⟨fun _ _ => agrees_iff_exists_core, fun a b => ?_, fun a b c => ?_, agrees_self_iff,
    fun _ => rfl⟩
  · simp only [agrees_some_iff]
    constructor <;> rintro ⟨telling, same⟩ <;> exact ⟨same ▸ telling, same.symm⟩
  · simp only [agrees_some_iff]
    rintro ⟨telling, same⟩ ⟨-, same'⟩
    exact ⟨telling, same.trans same'⟩

/-- White space that the letter hid counts, and white space at the ends does not. -/
example : agrees (some (.ofText "vv 1.0\n")) (.ofText "\tv 1.0") = true ∧
    agrees (some (.ofText "v 1.0")) (.ofText " 1.0") = false := by
  decide +kernel

end Version

end ServerLaunch
