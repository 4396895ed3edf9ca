import ServerLaunch.Proofs.Agreement

/-!
# Normal versions

A version is normalized before it is compared: the white space around it is dropped, and then the
letters `v` in front. Both are done once and in this order. So white space that stands behind the
letters is not dropped, and what is left begins with it. Such a version is not normal. Normalized
again it loses the white space, and it does not agree with the version that it came from.

White space behind the letters is all that can be left to do. It is there if the letters hide it,
that is, if the version is written around a core that begins with white space.

## Main definitions

* `Version.IsNormal`: nothing is left to drop from a version.
* `Version.Hides`: the letters in front of a version hide white space.

**Main statements.** A version is left normal unless it hides white space
(`Version.isNormal_normalize_iff`), and the normal versions are those that are left as they are
(`Version.normalize_eq_self_iff`).
-/
namespace ServerLaunch

namespace Version

variable {version : Version}

/-! ## Versions with nothing to drop -/

/-- Nothing is left to drop from a version: no letter `v` in front, and no white space at either
end. -/
structure IsNormal (version : Version) : Prop where
  bare : version.points.head? ≠ some (.char 'v')
  opened : ¬ BlankFirst version.points
  closed : ∀ point, version.points.getLast? = some point → point.isBlank = false

/-- A normal version is left as it is. -/
theorem IsNormal.normalize_eq (normal : version.IsNormal) : version.normalize = version := by
  by_cases void : version.points = []
  · obtain ⟨points⟩ := version
    obtain rfl : points = [] := void
    rfl
  · have wraps : version.Wraps 0 version.points := ⟨[], [], by simp, by simp⟩
    exact wraps.normalize_eq ⟨void, normal.bare, normal.closed⟩ fun blank =>
      absurd blank normal.opened

/-! ## White space that letters hide -/

/-- A version that begins with white space is not empty. -/
theorem BlankFirst.ne_empty (blank : BlankFirst version.points) : version ≠ empty := by
  rintro rfl
  obtain ⟨point, first, -⟩ := blank
  cases first

/-- The letters in front of a version hide white space: they stand before a core that begins with
it. -/
def Hides (version : Version) : Prop :=
  ∃ letters core, 1 ≤ letters ∧ IsCore core ∧ BlankFirst core ∧ version.Wraps letters core

/-- A version that hides white space loses its letters. -/
theorem Hides.length_normalize_lt (hides : version.Hides) :
    version.normalize.points.length < version.points.length := by
  obtain ⟨letters, core, hidden, isCore, -, wraps⟩ := hides
  rw [wraps.normalize_eq isCore fun _ => hidden]
  obtain ⟨before, after, split, -⟩ := wraps
  simp only [split, List.length_append, List.length_replicate]
  omega

/-- White space is left in front exactly if letters hid it. -/
theorem blankFirst_normalize_iff : BlankFirst version.normalize.points ↔ version.Hides := by
  constructor
  · intro blank
    obtain ⟨isCore, letters, wraps, hidden⟩ := wraps_normalize blank.ne_empty
    exact ⟨letters, _, hidden blank, isCore, blank, wraps⟩
  · rintro ⟨letters, core, hidden, isCore, blank, wraps⟩
    rw [wraps.normalize_eq isCore fun _ => hidden]
    exact blank

/-! ## What is left of a version -/

/-- Nothing is left of a version, or a core. -/
theorem normalize_cases (version : Version) :
    version.normalize = empty ∨ IsCore version.normalize.points := by
  by_cases void : version.normalize = empty
  · exact .inl void
  · exact .inr (wraps_normalize void).1

/-- No letter is left in front. -/
theorem head?_normalize (version : Version) :
    version.normalize.points.head? ≠ some (.char 'v') := by
  rcases version.normalize_cases with void | isCore
  · simp [void, empty]
  · exact isCore.bare

/-- No white space is left at the end. -/
theorem not_isBlank_of_getLast?_normalize {point : Text.CodePoint}
    (last : version.normalize.points.getLast? = some point) : point.isBlank = false := by
  rcases version.normalize_cases with void | isCore
  · simp [void, empty] at last
  · exact isCore.closed point last

/-- A version is left normal unless it hides white space. -/
theorem isNormal_normalize_iff : version.normalize.IsNormal ↔ ¬ version.Hides := by
  rw [← blankFirst_normalize_iff]
  exact ⟨IsNormal.opened, fun opened => ⟨head?_normalize version, opened,
    fun _ => not_isBlank_of_getLast?_normalize⟩⟩

/-- The normal versions are those that are left as they are. -/
theorem normalize_eq_self_iff : version.normalize = version ↔ version.IsNormal := by
  refine ⟨fun same => ?_, IsNormal.normalize_eq⟩
  have exposed : ¬ version.Hides := by
    intro hides
    have shorter := hides.length_normalize_lt
    rw [same] at shorter
    exact lt_irrefl _ shorter
  have normal := isNormal_normalize_iff.2 exposed
  rwa [same] at normal

/-- **What normalizing a version once leaves to do.** It leaves no letter `v` in front and no white
space at the end. White space in front is left exactly if the letters of the version hide it. In
every other case, and only then, what is left stays as it is when it is normalized again, and it
agrees with the version that it came from if it says anything. -/
theorem normalize_settles_iff (version : Version) :
    let left := version.normalize
    left.points.head? ≠ some (.char 'v') ∧
    (∀ point, left.points.getLast? = some point → point.isBlank = false) ∧
    ((∀ point, left.points.head? = some point → point.isBlank = false) ↔ ¬ version.Hides) ∧
    (left.normalize = left ↔ ¬ version.Hides) ∧
    (agrees (some left) version = true ↔ left ≠ empty ∧ ¬ version.Hides) ∧
    (agrees (some version) left = true ↔ left ≠ empty ∧ ¬ version.Hides) ∧
    (version.Hides → left ≠ empty) := by
  intro left
  have settled : left.normalize = left ↔ ¬ version.Hides :=
    normalize_eq_self_iff.trans isNormal_normalize_iff
  refine ⟨head?_normalize version, fun _ => not_isBlank_of_getLast?_normalize, ?_, settled, ?_,
    ?_, fun hides => (blankFirst_normalize_iff.2 hides).ne_empty⟩
  · rw [← blankFirst_normalize_iff]
    simp [BlankFirst, left]
  · rw [agrees_some_iff, ← settled]
    constructor
    · rintro ⟨telling, same⟩
      exact ⟨fun void => telling (same.trans void), same⟩
    · rintro ⟨telling, same⟩
      exact ⟨fun void => telling (same.symm.trans void), same⟩
  · rw [agrees_some_iff, ← settled, @eq_comm _ left]

/-- White space behind a letter is left in front, and a second pass takes it. So a version may not
agree with what is left of it. -/
theorem normalize_unsettled :
    (¬ ∀ version : Version, ∀ point, version.normalize.points.head? = some point →
      point.isBlank = false) ∧
    (¬ ∀ version : Version, version.normalize.normalize = version.normalize) ∧
    ¬ ∀ version : Version, version.normalize ≠ empty →
      agrees (some version.normalize) version = true := by
  refine ⟨fun claim => ?_, fun claim => ?_, fun claim => ?_⟩
  · exact absurd (claim (ofText "v 1.0") (.char ' ') (by decide +kernel)) (by decide)
  · exact absurd (claim (ofText "v 1.0")) (by decide +kernel)
  · exact absurd (claim (ofText "v 1.0") (by decide +kernel)) (by decide +kernel)

end Version

end ServerLaunch
