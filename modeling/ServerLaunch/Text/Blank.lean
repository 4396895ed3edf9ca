/-!
# Blank characters and trimming

White space at the ends of a text, and the removal of leading or trailing
characters of a kind. Trimming looks at characters, never at bytes or at
grapheme clusters.

## Main definitions

* `isBlank`: the characters that count as white space.
* `dropEnd`: removal of the longest tail of characters of a kind.
* `trim`: a text without the white space at either end.
-/
namespace ServerLaunch.Text

/-- The white space characters: the ASCII controls from tab to carriage return and
from file separator to unit separator, the space, and the spaces and separators of
the other scripts. A zero width space or a byte order mark is not one. -/
def isBlank (c : Char) : Bool :=
  (0x09 ≤ c.toNat && c.toNat ≤ 0x0D) || (0x1C ≤ c.toNat && c.toNat ≤ 0x20)
    || c.toNat == 0x85 || c.toNat == 0xA0 || c.toNat == 0x1680
    || (0x2000 ≤ c.toNat && c.toNat ≤ 0x200A)
    || c.toNat == 0x2028 || c.toNat == 0x2029 || c.toNat == 0x202F
    || c.toNat == 0x205F || c.toNat == 0x3000

/-! ## Removal at the ends -/

variable {α : Type} {p : α → Bool} {xs tail : List α}

/-- Drop the longest tail whose elements all satisfy `p`. -/
def dropEnd (p : α → Bool) (xs : List α) : List α :=
  (xs.reverse.dropWhile p).reverse

/-- A tail of elements that satisfy `p` is dropped with what goes before it. -/
theorem dropEnd_append_of_all (h : ∀ x ∈ tail, p x = true) :
    dropEnd p (xs ++ tail) = dropEnd p xs := by
  rw [dropEnd, List.reverse_append, List.dropWhile_append_of_pos (by simpa using h), dropEnd]

/-- Nothing is dropped behind a last element that does not satisfy `p`. -/
theorem dropEnd_eq_self (bare : ∀ x, xs.getLast? = some x → p x = false) : dropEnd p xs = xs := by
  have kept : xs.reverse.dropWhile p = xs.reverse := by
    cases turned : xs.reverse with
    | nil => rfl
    | cons x rest =>
      have last : xs.getLast? = some x := by rw [← List.head?_reverse, turned]; rfl
      rw [List.dropWhile_cons, bare x last]
      rfl
  rw [dropEnd, kept, List.reverse_reverse]

/-- Drop the elements that satisfy `p` at either end. -/
def dropBoth (p : α → Bool) (xs : List α) : List α :=
  dropEnd p (xs.dropWhile p)

/-- What is dropped at either end satisfies `p`. -/
theorem exists_eq_append_dropBoth (p : α → Bool) (xs : List α) :
    ∃ before after, xs = before ++ dropBoth p xs ++ after ∧
      ∀ x ∈ before ++ after, p x = true := by
  refine ⟨xs.takeWhile p, ((xs.dropWhile p).reverse.takeWhile p).reverse, ?_, fun x dropped => ?_⟩
  · rw [List.append_assoc, dropBoth, dropEnd, ← List.reverse_append,
      List.takeWhile_append_dropWhile, List.reverse_reverse, List.takeWhile_append_dropWhile]
  · rw [List.mem_append, List.mem_reverse] at dropped
    rcases dropped with front | back
    · exact List.all_eq_true.1 List.all_takeWhile x front
    · exact List.all_eq_true.1 List.all_takeWhile x back

/-- Nothing that satisfies `p` is left at the front. -/
theorem not_of_head?_dropBoth {x : α} (first : (dropBoth p xs).head? = some x) : p x = false := by
  obtain ⟨rest, split⟩ : ∃ rest, dropBoth p xs = x :: rest := by
    cases dropped : dropBoth p xs <;> simp_all
  obtain ⟨run, kept⟩ : dropBoth p xs <+: xs.dropWhile p := by
    rw [dropBoth, dropEnd, ← List.reverse_suffix, List.reverse_reverse]
    exact List.dropWhile_suffix p
  rw [split, List.cons_append] at kept
  simpa [← kept] using List.head?_dropWhile_not p xs

/-- Nothing that satisfies `p` is left at the end. -/
theorem not_of_getLast?_dropBoth {x : α} (last : (dropBoth p xs).getLast? = some x) :
    p x = false := by
  rw [dropBoth, dropEnd, List.getLast?_reverse] at last
  simpa [last] using List.head?_dropWhile_not p (xs.dropWhile p).reverse

/-- What stands between elements that satisfy `p` is left, if it neither begins nor ends with
one. -/
theorem dropBoth_append {before core after : List α} (padding : ∀ x ∈ before ++ after, p x = true)
    (first : ∀ x, core.head? = some x → p x = false)
    (last : ∀ x, core.getLast? = some x → p x = false) :
    dropBoth p (before ++ core ++ after) = core := by
  simp only [List.mem_append, or_imp, forall_and] at padding
  rw [dropBoth, List.append_assoc, List.dropWhile_append_of_pos padding.1]
  cases core with
  | nil =>
    have nothing : after.dropWhile p = [] := by
      simpa using @List.dropWhile_append_of_pos _ p after [] padding.2
    rw [List.nil_append, nothing]
    rfl
  | cons x rest =>
    rw [List.cons_append, List.dropWhile_cons_of_neg (by simp [first x rfl]), ← List.cons_append,
      dropEnd_append_of_all padding.2, dropEnd_eq_self last]

/-- Nothing is left exactly if all elements satisfy `p`. -/
theorem dropBoth_eq_nil_iff : dropBoth p xs = [] ↔ ∀ x ∈ xs, p x = true := by
  constructor
  · intro nothing
    obtain ⟨before, after, split, padding⟩ := exists_eq_append_dropBoth p xs
    rw [nothing, List.append_nil] at split
    rwa [split]
  · intro padding
    simpa using @dropBoth_append _ p xs [] [] (by simpa using padding) nofun nofun

/-- A text without the white space at either end. -/
def trim (text : String) : String :=
  String.ofList (dropBoth isBlank text.toList)

/-- A text without its trailing run of the character `c`. -/
def dropTrailing (c : Char) (text : String) : String :=
  String.ofList (dropEnd (· == c) text.toList)

end ServerLaunch.Text
