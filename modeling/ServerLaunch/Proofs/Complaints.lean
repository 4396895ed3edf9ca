import ServerLaunch.Proofs.Stages

/-!
# Complaints

An installer that fails may have complained on its error stream, and the end of its complaint is
told: the white space around it is left away, and the last ten lines of what remains are joined by
line feeds. Whoever reads what is told line by line finds these lines again, whatever parted them
before.

A line could be lost at the end only. A boundary there opens no further line, so an empty last line
would not be found again. But every character that ends a line is white space. So a complaint
without the white space around it does not end in a boundary, and its last line says something.

## Main definitions

* `Text.Stripped`: what a text is without the white space around it.
* `Text.Lined`: the lines that a text falls into.

**Main statements.** The rules are how lines are read (`Text.lined_iff`), and lines are found again
when they are joined, unless the last one is empty (`Text.lined_intercalate`).
-/
namespace ServerLaunch

namespace Text

/-! ## White space around a text -/

/-- A text is a core with white space around it, with which the core neither begins nor ends. -/
structure Stripped (text core : List Char) : Prop where
  around : ∃ before after, text = before ++ core ++ after ∧
    ∀ c ∈ before ++ after, isBlank c = true
  first : ∀ c, core.head? = some c → isBlank c = false
  last : ∀ c, core.getLast? = some c → isBlank c = false

variable {text core line boundary rest : List Char} {all : List (List Char)}

/-- The core is what is left when the white space around a text is dropped. -/
theorem stripped_iff : Stripped text core ↔ dropBoth isBlank text = core := by
  constructor
  · rintro ⟨⟨before, after, rfl, padding⟩, first, last⟩
    exact dropBoth_append padding first last
  · rintro rfl
    exact ⟨exists_eq_append_dropBoth isBlank text, fun _ => not_of_head?_dropBoth,
      fun _ => not_of_getLast?_dropBoth⟩

/-- Only white space has nothing at its core. -/
theorem Stripped.eq_nil_iff (h : Stripped text core) :
    core = [] ↔ ∀ c ∈ text, isBlank c = true := by
  rw [← stripped_iff.1 h]
  exact dropBoth_eq_nil_iff

/-- Lines end at white space only. -/
theorem not_isLineEnd_of_not_isBlank {c : Char} (bare : isBlank c = false) :
    isLineEnd c = false := by
  simp only [isLineEnd, isBlank, Bool.or_eq_false_iff, Bool.and_eq_false_iff,
    decide_eq_false_iff_not, beq_eq_false_iff_ne] at bare ⊢
  omega

/-! ## The lines of a text -/

/-- No line ends within a run of characters. -/
def Unbroken (line : List Char) : Prop := ∀ c ∈ line, isLineEnd c = false

/-- What parts a line from the rest of the text: a carriage return with the line feed behind it, or
one character at which a line ends. -/
inductive Parts (rest : List Char) : List Char → Prop
  | pair : Parts rest ['\r', '\n']
  | single {c : Char} (ends : isLineEnd c = true) (alone : c = '\r' → rest.head? ≠ some '\n') :
      Parts rest [c]

/-- The lines that a text falls into. A boundary closes a line, and what stands behind the last
boundary is a line of its own if it is not empty. -/
inductive Lined : List Char → List (List Char) → Prop
  | nil : Lined [] []
  | last {line : List Char} (unbroken : Unbroken line) (telling : line ≠ []) : Lined line [line]
  | cons {line boundary rest : List Char} {others : List (List Char)} (unbroken : Unbroken line)
      (parts : Parts rest boundary) (behind : Lined rest others) :
      Lined (line ++ boundary ++ rest) (line :: others)

/-- A boundary ends in a character at which a line ends. -/
theorem Parts.exists_ending (parts : Parts rest boundary) :
    ∃ c, boundary.getLast? = some c ∧ isLineEnd c = true := by
  cases parts with
  | pair => exact ⟨'\n', rfl, by decide⟩
  | single ends _ => exact ⟨_, rfl, ends⟩

theorem lines_cons_of_plain {c : Char} (plain : isLineEnd c = false) (rest : List Char) :
    lines (c :: rest) = consLine c (lines rest) := by
  rw [lines, if_neg (by simp [plain])]
  rintro _ rfl
  cases plain

/-- A boundary closes the line in front of it. -/
theorem lines_append_of_parts (unbroken : Unbroken line) (parts : Parts rest boundary) :
    lines (line ++ boundary ++ rest) = line :: lines rest := by
  induction line with
  | nil =>
    cases parts with
    | pair => exact lines_crlf rest
    | single ends alone =>
      rw [List.nil_append, List.singleton_append, lines, if_pos ends]
      rintro behind rfl rfl
      exact alone rfl rfl
  | cons c line ih =>
    rw [Unbroken, List.forall_mem_cons] at unbroken
    rw [List.cons_append, List.cons_append, lines_cons_of_plain unbroken.1, ih unbroken.2, consLine]

/-- A run of characters that ends no line is a line. -/
theorem lines_of_unbroken (unbroken : Unbroken line) (telling : line ≠ []) :
    lines line = [line] := by
  induction line with
  | nil => exact absurd rfl telling
  | cons c line ih =>
    rw [Unbroken, List.forall_mem_cons] at unbroken
    rw [lines_cons_of_plain unbroken.1]
    cases line with
    | nil => rfl
    | cons d line => rw [ih unbroken.2 (by simp), consLine]

theorem Lined.lines_eq (h : Lined text all) : lines text = all := by
  induction h with
  | nil => rfl
  | last unbroken telling => exact lines_of_unbroken unbroken telling
  | cons unbroken parts _ ih => rw [lines_append_of_parts unbroken parts, ih]

/-- A character that ends no line belongs to the first line. -/
theorem Lined.consLine {c : Char} (h : Lined text all) (plain : isLineEnd c = false) :
    Lined (c :: text) (consLine c all) := by
  cases h with
  | nil => exact .last (by simpa [Unbroken] using plain) (by simp)
  | last unbroken _ => exact .last (List.forall_mem_cons.2 ⟨plain, unbroken⟩) (by simp)
  | cons unbroken parts behind =>
    exact .cons (List.forall_mem_cons.2 ⟨plain, unbroken⟩) parts behind

/-- The rules of lines are how lines are read. -/
theorem lined_iff : Lined text all ↔ lines text = all := by
  refine iff_eq_of_covered Lined.lines_eq ⟨lines text, ?_⟩ all
  induction text using lines.induct with
  | case1 => exact .nil
  | case2 rest ih =>
    rw [lines_crlf]
    exact @Lined.cons [] _ rest _ nofun .pair ih
  | case3 c rest single ends ih =>
    -- Had a line feed been next, the pair would have been read.
    have parts : Parts rest [c] := by
      refine .single ends ?_
      rintro rfl feed
      obtain ⟨behind, rfl⟩ := List.head?_eq_some_iff.1 feed
      exact single behind rfl rfl
    rw [lines, if_pos ends]
    · exact @Lined.cons [] _ rest _ nofun parts ih
    · exact single
  | case4 c rest _ other ih =>
    have plain : isLineEnd c = false := by simpa using other
    rw [lines_cons_of_plain plain]
    exact ih.consLine plain

/-! ## Lines that are joined -/

/-- Within a line no line ends. -/
theorem Lined.unbroken (h : Lined text all) : ∀ line ∈ all, Unbroken line := by
  induction h with
  | nil => nofun
  | last unbroken _ => exact List.forall_mem_singleton.2 unbroken
  | cons unbroken _ _ ih => exact List.forall_mem_cons.2 ⟨unbroken, ih⟩

theorem Lined.eq_nil_iff (h : Lined text all) : all = [] ↔ text = [] := by
  cases h with
  | nil => simp
  | last _ telling => simp [telling]
  | @cons line boundary _ _ _ parts _ =>
    obtain ⟨c, ending, -⟩ := parts.exists_ending
    have some_boundary : boundary ≠ [] := by
      rintro rfl
      cases ending
    simp [some_boundary]

/-- The last line, if there is one, says something. -/
def Closed (all : List (List Char)) : Prop := ∀ line, all.getLast? = some line → line ≠ []

theorem Closed.drop (closed : Closed all) (n : Nat) : Closed (all.drop n) := by
  intro line last
  rw [List.getLast?_drop] at last
  split at last
  · cases last
  · exact closed line last

/-- The last line of a text that does not end in a boundary says something. -/
theorem Lined.closed (h : Lined text all)
    (last : ∀ c, text.getLast? = some c → isLineEnd c = false) : Closed all := by
  induction h with
  | nil => nofun
  | last _ telling => simpa [Closed] using telling
  | @cons line boundary rest others _ parts behind ih =>
    -- The boundary is not the end of the text, so the last line comes behind it.
    have some_rest : rest ≠ [] := by
      rintro rfl
      obtain ⟨c, ending, ends⟩ := parts.exists_ending
      rw [last c (by simp [ending])] at ends
      cases ends
    have some_others : others ≠ [] := fun none => some_rest (behind.eq_nil_iff.1 none)
    rw [List.getLast?_append_of_ne_nil _ some_rest] at last
    rw [Closed, List.getLast?_cons_of_ne_nil some_others]
    exact ih last

/-- Lines are found again when they are joined by line feeds, unless the last one is empty. -/
theorem lined_intercalate (unbroken : ∀ line ∈ all, Unbroken line) (closed : Closed all) :
    Lined (List.intercalate ['\n'] all) all := by
  induction all with
  | nil => exact .nil
  | cons line others ih =>
    rw [List.forall_mem_cons] at unbroken
    cases others with
    | nil =>
      rw [List.intercalate_singleton]
      exact .last unbroken.1 (closed line rfl)
    | cons next others =>
      rw [List.intercalate_cons_cons]
      rw [Closed, List.getLast?_cons_cons] at closed
      exact .cons unbroken.1 (.single (by decide) nofun) (ih unbroken.2 closed)

end Text

/-! ## What is told of a complaint -/

variable {complaint? : Option String} {core : List Char} {all : List (List Char)}

/-- What is told of a complaint falls into its last lines, and the last of them says something. -/
theorem lined_complaintTail (stripped : Text.Stripped (complaint?.getD "").toList core)
    (lined : Text.Lined core all) :
    let kept := all.drop (all.length - complaintLines)
    Text.Lined (complaintTail complaint?).toList kept ∧ Text.Closed kept := by
  intro kept
  have closed : Text.Closed kept :=
    (lined.closed fun c last => Text.not_isLineEnd_of_not_isBlank (stripped.last c last)).drop _
  have joined : (complaintTail complaint?).toList = List.intercalate ['\n'] kept := by
    rw [complaintTail, Text.lastLines, Text.trim, String.toList_ofList, String.toList_ofList,
      Text.stripped_iff.1 stripped, lined.lines_eq]
  rw [joined]
  have unbroken : ∀ line ∈ kept, Text.Unbroken line := fun line inside =>
    lined.unbroken line (List.mem_of_mem_drop inside)
  exact ⟨Text.lined_intercalate unbroken closed, closed⟩

/-- Some line is kept of a complaint that has any. -/
theorem drop_complaintLines_eq_nil_iff :
    all.drop (all.length - complaintLines) = [] ↔ all = [] := by
  have some_kept : 0 < complaintLines := by decide
  rw [List.drop_eq_nil_iff, ← List.length_eq_zero_iff]
  omega

/-- Nothing is told exactly if there is no complaint but white space. -/
theorem complaintTail_eq_empty_iff (stripped : Text.Stripped (complaint?.getD "").toList core)
    (lined : Text.Lined core all) :
    complaintTail complaint? = "" ↔ ∀ complaint, complaint? = some complaint →
      ∀ c ∈ complaint.toList, Text.isBlank c = true := by
  obtain ⟨told, -⟩ := lined_complaintTail stripped lined
  calc complaintTail complaint? = ""
    _ ↔ all.drop (all.length - complaintLines) = [] := by
      rw [told.eq_nil_iff, ← String.toList_inj, String.toList_empty]
    _ ↔ core = [] := by rw [drop_complaintLines_eq_nil_iff, lined.eq_nil_iff]
    _ ↔ ∀ c ∈ (complaint?.getD "").toList, Text.isBlank c = true := stripped.eq_nil_iff
    _ ↔ _ := by cases complaint? <;> simp

namespace Npm

variable {σ : Type} (npm : Npm) (package : String) (version : Version) (directory : String)

/-- **What is told of an installer that fails.** Where the program of an installation runs and ends
with a code other than zero, the code is reported, and behind it what it complained of. That falls
into the last ten of the lines that the complaint falls into without the white space around it, or
into all of them if there are no more than ten. The last of these lines is not empty, and nothing is
told exactly if there is no complaint but white space. -/
theorem install_complaint {w : World σ} {program : String} {cache : Path} {disk disk' : Disk}
    {exit : Exit} (chosen : npm.Chooses w.toMachine program)
    (cached : npm.cacheOn w.toMachine = (.ok cache, disk))
    (ended : w.nextEnding.effect disk = (.ok exit, disk')) (code : exit.code ≠ 0) :
    ∃ (tail : String) (core : List Char) (all kept : List (List Char)),
      ((npm.install package version directory).run w).outcome =
        .error (.launch (.install package version
          ("npm exited with code " ++ toString exit.code ++ ": " ++ tail) none)) ∧
      Text.Stripped (exit.complaint?.getD "").toList core ∧ Text.Lined core all ∧
      Text.Lined tail.toList kept ∧ kept = all.drop (all.length - 10) ∧
      kept.length = min 10 all.length ∧ (all.length ≤ 10 → kept = all) ∧
      (tail ≠ "" → ∃ line, kept.getLast? = some line ∧ line ≠ []) ∧
      (tail = "" ↔ ∀ complaint, exit.complaint? = some complaint →
        ∀ c ∈ complaint.toList, Text.isBlank c = true) := by
  obtain ⟨core, stripped⟩ : ∃ core, Text.Stripped (exit.complaint?.getD "").toList core :=
    ⟨_, Text.stripped_iff.2 rfl⟩
  obtain ⟨all, lined⟩ : ∃ all, Text.Lined core all := ⟨_, Text.lined_iff.2 rfl⟩
  obtain ⟨told, closed⟩ := lined_complaintTail stripped lined
  refine ⟨complaintTail exit.complaint?, core, all, _, ?_, stripped, lined, told, rfl, ?_, ?_, ?_,
    complaintTail_eq_empty_iff stripped lined⟩
  · rw [(Installed.exited chosen.find?_eq cached ended code).run_eq]
    rfl
  · rw [List.length_drop, complaintLines]
    omega
  · intro few
    rw [complaintLines, Nat.sub_eq_zero_of_le few, List.drop_zero]
  · intro some_tail
    cases last : (all.drop (all.length - complaintLines)).getLast? with
    | none =>
      rw [List.getLast?_eq_none_iff, told.eq_nil_iff] at last
      exact absurd (String.toList_injective last) some_tail
    | some line => exact ⟨line, rfl, closed line last⟩

/-! ### A long complaint -/

namespace Failing

/-- Eleven lines between white space, of which one is empty. They are parted in several ways. -/
def complaint : String := "\n 1\r\n2\r3\x0b4\u20285\n6\n7\n\n9\n10\n11 \t\n"

/-- How the program of the installer ends. -/
def exit : Exit := ⟨-2, some complaint⟩

/-- A machine on which the program fails. -/
def world : World Unit := ⟨{ Stale.machine with endings := [.ends exit []] }, ()⟩

end Failing

/-- The first of the lines is left away, and the others are found in what is told. -/
theorem install_complaint_long :
    Halted.installer.Chooses Failing.world.toMachine "/npm" ∧
      Halted.installer.cacheOn Failing.world.toMachine =
        (.ok (.ofText "/c"), Failing.world.disk) ∧
      Failing.world.nextEnding.effect Failing.world.disk =
        (.ok Failing.exit, Failing.world.disk) ∧
      Failing.exit.code ≠ 0 ∧
      ∃ tail : String,
        ((Halted.installer.install Server.package (.ofText "1.10.4") "/p").run
            Failing.world).outcome =
          .error (.launch (.install Server.package (.ofText "1.10.4")
            ("npm exited with code -2: " ++ tail) none)) ∧
        Text.Lined tail.toList
          (["2", "3", "4", "5", "6", "7", "", "9", "10", "11"].map String.toList) := by
  have chosen : Halted.installer.Chooses Failing.world.toMachine "/npm" := .set rfl (by decide)
  refine ⟨chosen, rfl, rfl, by decide, ?_⟩
  obtain ⟨tail, core, all, kept, told, stripped, lined, found, rfl, -⟩ :=
    install_complaint Halted.installer Server.package (.ofText "1.10.4") "/p" chosen rfl rfl
      (by decide : Failing.exit.code ≠ 0)
  refine ⟨tail, told, ?_⟩
  obtain rfl := Text.stripped_iff.1 stripped
  obtain rfl := Text.lined_iff.1 lined
  have same : (Text.lines (Text.dropBoth Text.isBlank Failing.complaint.toList)).drop 1 =
      ["2", "3", "4", "5", "6", "7", "", "9", "10", "11"].map String.toList := by decide +kernel
  rw [← same]
  exact found

end Npm

end ServerLaunch
