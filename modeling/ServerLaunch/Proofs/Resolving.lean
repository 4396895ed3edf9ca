import ServerLaunch.Proofs.Straight

/-!
# Resolving a path

A strict walk resolves a path and remembers the links that it meets: a link that was resolved
before is not resolved again, and one that is being resolved ends the walk. The memory changes
nothing about the answer. A walk that succeeds gets where the names lead, and one that fails says
what stops them.

## Main definitions

* `Disk.Remembers`: the memory of a walk is true.
* `Disk.Walks`: the answer of a walk is true.
* `Disk.Resolves`, `Disk.Fails`: the path that a text stands for, and why there is none.

**Main statements.** The answer of every walk is true (`walkPath_walks`). Unless links are nested
too deeply, the canonical path of a text is the one that it resolves to
(`canonical_eq_ok_iff`), and there is none exactly for the reason that stops the text
(`canonical_eq_error_iff`).
-/
namespace ServerLaunch

namespace Disk

variable {disk : Disk} {path next p : Path} {name target text : String} {names : List String}
  {place : Place} {entry : Entry} {fault : Fault} {inner depth : Nat} {opened : List Path}
  {visits : Visits}

/-! ## The memory of a walk -/

/-- The memory of a walk is true: the links that are being resolved are the open ones, and each of
the others led where its target leads. -/
structure Remembers (disk : Disk) (visits : Visits) (opened : List Path) : Prop where
  opened_iff : ∀ link, visits.lookup link = some none ↔ link ∈ opened
  closed : ∀ link next, visits.lookup link = some (some next) →
    ∃ inner path name target, link = Path.child path name ∧ disk.Linked path name target ∧
      disk.Leads inner (walkStart path target) (Path.rawNames target) next

theorem remembers_nil : disk.Remembers [] [] :=
  ⟨fun _ => by simp, fun _ _ met => nomatch met⟩

/-- A link that was not met is opened. -/
theorem Remembers.openLink (h : disk.Remembers visits opened) (link : Path) :
    disk.Remembers ((link, none) :: visits) (link :: opened) := by
  constructor
  · intro other
    by_cases same : other = link
    · simp [same]
    · simp [List.lookup_cons, beq_false_of_ne same, same, h.opened_iff]
  · intro other next met
    by_cases same : other = link
    · simp [same] at met
    · rw [List.lookup_cons, beq_false_of_ne same] at met
      exact h.closed other next met

/-- A link that is open is closed once its target led somewhere. -/
theorem Remembers.closeLink (h : disk.Remembers visits (path.child name :: opened))
    (fresh : path.child name ∉ opened) (linked : disk.Linked path name target)
    (inward : disk.Leads inner (walkStart path target) (Path.rawNames target) next) :
    disk.Remembers ((path.child name, some next) :: visits) opened := by
  constructor
  · intro other
    by_cases same : other = path.child name
    · simp [same, fresh]
    · simp [List.lookup_cons, beq_false_of_ne same, h.opened_iff, same]
  · intro other next' met
    by_cases same : other = path.child name
    · simp only [List.lookup_cons, same, beq_self_eq_true, Option.some.injEq] at met
      exact ⟨inner, path, name, target, same, linked, met ▸ inward⟩
    · rw [List.lookup_cons, beq_false_of_ne same] at met
      exact h.closed other next' met

/-! ## Answers of a walk -/

/-- The answer of a walk along names is true, and so is what it remembers afterwards. -/
inductive Walks (disk : Disk) (depth : Nat) (opened : List Path) (path : Path)
    (names : List String) : WalkResult → Prop
  | arrived {count : Nat} {reached : Path} {visits : Visits}
      (leads : disk.Leads count path names reached) (remembers : disk.Remembers visits opened) :
      Walks disk depth opened path names (.ok (reached, visits))
  | stopped {fault : Fault} (stops : disk.Stops depth opened path names fault) :
      Walks disk depth opened path names (.error (.fault fault))

theorem Walks.of_step {rest : List String} {r : WalkResult} (step : disk.Step path name next)
    (h : disk.Walks depth opened next rest r) : disk.Walks depth opened path (name :: rest) r := by
  cases h with
  | arrived leads remembers => exact .arrived (.step step leads) remembers
  | stopped stops => exact .stopped (.step step stops)

theorem Walks.of_link {rest : List String} {r : WalkResult}
    (linked : disk.Linked path name target)
    (inward : disk.Leads inner (walkStart path target) (Path.rawNames target) next)
    (h : disk.Walks depth opened next rest r) : disk.Walks depth opened path (name :: rest) r := by
  cases h with
  | arrived leads remembers => exact .arrived (.link linked inward leads) remembers
  | stopped stops => exact .stopped (.past linked inward stops)

/-- The answer for a link is true, whatever names follow it. -/
inductive Follows (disk : Disk) (depth : Nat) (opened : List Path) (path : Path)
    (name target : String) : WalkResult → Prop
  | closed {inner : Nat} {next : Path} {visits : Visits}
      (inward : disk.Leads inner (walkStart path target) (Path.rawNames target) next)
      (remembers : disk.Remembers visits opened) :
      Follows disk depth opened path name target (.ok (next, visits))
  | stopped {fault : Fault} (stops : ∀ rest, disk.Stops depth opened path (name :: rest) fault) :
      Follows disk depth opened path name target (.error (.fault fault))

/-- Links are answered truly wherever they are met inside the open ones. -/
def Answers (disk : Disk) (depth : Nat) (opened : List Path)
    (onLink : Visits → Path → Path → String → WalkResult) : Prop :=
  ∀ visits path name target rest place entry, disk.Remembers visits opened →
    disk.Linked path name target → disk.Arrived path place entry →
    disk.Encloses opened path (name :: rest) →
    disk.Follows depth opened path name target (onLink visits path (path.child name) target)

/-- A walk along names is true if its answers for links are. -/
theorem walkPathNames_walks {onLink : Visits → Path → Path → String → WalkResult}
    (answers : disk.Answers depth opened onLink) (cut : ∀ name ∈ names, '/' ∉ name.toList)
    (remembers : disk.Remembers visits opened) (h : disk.Arrived path place entry)
    (encloses : disk.Encloses opened path names) :
    disk.Walks depth opened path names (disk.walkPathNames true onLink visits path names) := by
  induction names generalizing visits path place entry with
  | nil => exact .arrived .done remembers
  | cons name rest ih =>
    obtain ⟨cut, cut_rest⟩ := List.forall_mem_cons.1 cut
    have onward {next : Path} (step : disk.Step path name next) :
        disk.Walks depth opened path (name :: rest)
          (disk.walkPathNames true onLink visits next rest) := by
      obtain ⟨_, _, arrived⟩ := step.arrived h
      exact (ih cut_rest remembers arrived (encloses.step step)).of_step step
    rw [walkPathNames]
    split
    · next void => exact onward (.void void)
    · next telling =>
      split
      · next up => exact onward (up ▸ .up)
      · next down =>
        have named : Path.IsName name := ⟨by simpa using telling, cut⟩
        rcases h.lstat_cases named down with nul | ⟨number, other, told⟩ | ⟨found, _, _, _, told⟩
        · rw [lstat_of_nul nul]
          exact .stopped (.here (.unprintable named down nul))
        · simp only [told, Fault.onPath, strictFault, other, Bool.true_or, if_true, if_false]
          exact .stopped (.here (.refused named down told rfl))
        · cases found with
          | directory =>
            rw [told]
            exact onward (.enter named down told rfl)
          | file content mode =>
            rw [told]
            exact onward (.enter named down told rfl)
          | link target =>
            have linked : disk.Linked path name target := ⟨named, down, told⟩
            have follows := answers _ _ _ _ rest _ _ remembers linked h encloses
            rw [told]
            dsimp only
            generalize onLink visits path (path.child name) target = r at follows
            cases follows with
            | closed inward remembers' =>
              obtain ⟨_, _, arrived⟩ := inward.arrived (.directory (linked.arrived h))
              have walks := ih cut_rest remembers' arrived (encloses.past linked inward)
              exact walks.of_link linked inward
            | stopped stops => exact .stopped (stops rest)

/-- A link that is met again is stopped as the system says. -/
theorem follows_again (linked : disk.Linked path name target) (again : path.child name ∈ opened)
    (h : disk.Arrived path place entry) {rest : List String}
    (encloses : disk.Encloses opened path (name :: rest)) :
    disk.Follows depth opened path name target
      (.error (disk.closeLoop true (path.child name))) := by
  obtain ⟨number, told⟩ := encloses.stat_again again linked h
  simp only [closeLoop, told, Fault.onPath, strictFault, if_true]
  split
  · next same =>
    exact .stopped fun _ => .here (.round linked again (same ▸ told))
  · next other =>
    refine .stopped fun _ => .here (.barred linked again told rfl ?_)
    simpa [Fault.onPath] using other

/-- The names that a text is cut into hold no slash. -/
theorem slash_not_mem_rawNames : ∀ name ∈ Path.rawNames text, '/' ∉ name.toList := by
  intro name listed
  simp only [Path.rawNames, Text.split, List.mem_map] at listed
  obtain ⟨piece, inside, rfl⟩ := listed
  rw [String.toList_ofList]
  exact Text.not_mem_of_mem_pieces inside

/-- **The answer of every walk is true**, whatever links it remembers, unless none may be opened
any more. -/
theorem walkPath_walks (left : Nat) (deep : opened.length + left = depth + 1)
    (remembers : disk.Remembers visits opened) (h : disk.Straight (walkStart path text) place)
    (encloses : disk.Encloses opened (walkStart path text) (Path.rawNames text)) :
    left = 0 ∧ disk.walkPath true left visits path text = .error (.fault tooManyOpen) ∨
      disk.Walks depth opened (walkStart path text) (Path.rawNames text)
        (disk.walkPath true left visits path text) := by
  induction left generalizing visits opened path text place with
  | zero => exact .inl ⟨rfl, rfl⟩
  | succ left ih =>
    refine .inr (walkPathNames_walks ?_ slash_not_mem_rawNames remembers (.directory h) encloses)
    intro visits path name target rest place entry remembers linked arrived encloses
    dsimp only
    -- A link is new, or it is being resolved, or it was resolved before.
    cases met : visits.lookup (path.child name) with
    | none =>
      have fresh : path.child name ∉ opened := fun listed =>
        nomatch met.symm.trans ((remembers.opened_iff _).2 listed)
      have below : (path.child name :: opened).length + left = depth + 1 := by
        rw [List.length_cons]
        omega
      rcases ih below (remembers.openLink _) (linked.arrived arrived) (encloses.inside linked) with
        ⟨rfl, full⟩ | walks
      · have limit : depth ≤ opened.length := by omega
        simp only [full]
        exact .stopped fun _ => .here (.deep linked fresh limit)
      · generalize disk.walkPath true left _ path target = r at walks ⊢
        cases walks with
        | arrived leads remembers' =>
          exact .closed leads (remembers'.closeLink fresh linked leads)
        | stopped stops => exact .stopped fun _ => .inside linked fresh stops
    | some reached? =>
      cases reached? with
      | none => exact follows_again linked ((remembers.opened_iff _).1 met) arrived encloses
      | some reached =>
        obtain ⟨inner, path', name', target', same, linked', inward⟩ := remembers.closed _ _ met
        obtain ⟨rfl, rfl⟩ := Path.child_inj same
        cases linked.unique linked'
        exact .closed inward remembers

/-! ## What a text stands for -/

/-- A text resolves to the path that its names lead to, seen from the root. -/
def Resolves (disk : Disk) (text : String) (p : Path) : Prop :=
  ∃ count path, disk.Leads count (walkStart ⟨.relative, []⟩ text) (Path.ofText text).names path ∧
    disk.absolute path = .ok p

/-- A text resolves to no path: its names are stopped, or the path that they lead to cannot be
seen from the root. -/
inductive Fails (disk : Disk) (depth : Nat) (text : String) : Fault → Prop
  | stopped {fault : Fault}
      (stops :
        disk.Stops depth [] (walkStart ⟨.relative, []⟩ text) (Path.ofText text).names fault) :
      Fails disk depth text fault
  | unseen {count : Nat} {path : Path} {fault : Fault}
      (leads : disk.Leads count (walkStart ⟨.relative, []⟩ text) (Path.ofText text).names path)
      (lost : disk.absolute path = .error fault) : Fails disk depth text fault

theorem straight_walkStart (disk : Disk) (text : String) :
    ∃ place, disk.Straight (walkStart ⟨.relative, []⟩ text) place := by
  unfold walkStart
  split
  · exact ⟨_, .root⟩
  · exact ⟨_, .here⟩

/-- The system reports that the working directory was removed. -/
theorem isSystem_of_absolute (h : disk.absolute path = .error fault) : fault.isSystem = true := by
  unfold absolute at h
  split at h
  · cases h
  · split at h
    · cases h
    · cases h
      rfl

theorem Leads.of_voids {voids : List String} {count : Nat} {reached : Path}
    (void : ∀ name ∈ voids, Path.isVoid name = true)
    (h : disk.Leads count path (voids ++ names) reached) : disk.Leads count path names reached := by
  induction voids with
  | nil => exact h
  | cons name rest ih =>
    obtain ⟨first, later⟩ := List.forall_mem_cons.1 void
    exact ih later (h.of_step (.void first))

theorem Stops.of_voids {voids : List String} (void : ∀ name ∈ voids, Path.isVoid name = true)
    (h : disk.Stops depth opened path (voids ++ names) fault) :
    disk.Stops depth opened path names fault := by
  induction voids with
  | nil => exact h
  | cons name rest ih =>
    obtain ⟨first, later⟩ := List.forall_mem_cons.1 void
    have step : disk.Step path name path := .void first
    cases h with
    | here blocks => exact absurd step blocks.not_step
    | step step' onward => exact ih later (step'.unique step ▸ onward)
    | past linked _ _ | inside linked _ _ => exact absurd linked step.not_linked

/-- A strict search for the canonical path gives the one that the text resolves to, or the reason
why there is none. -/
theorem canonical_cases (disk : Disk) (depth : Nat) (text : String) :
    (∃ p, disk.canonical depth true text = .ok p ∧ disk.Resolves text p) ∨
      ∃ fault, disk.canonical depth true text = .error fault ∧ disk.Fails depth text fault := by
  obtain ⟨place, straight⟩ := disk.straight_walkStart text
  obtain ⟨voids, void, split⟩ := Path.rawNames_text (Path.plain_ofText text)
  have start : walkStart ⟨.relative, []⟩ (Path.ofText text).text =
      walkStart ⟨.relative, []⟩ text := by
    rw [walkStart, walkStart, Path.ofText_text (Path.plain_ofText text)]
  rcases @walkPath_walks disk ⟨.relative, []⟩ (Path.ofText text).text place depth [] [] (depth + 1)
      (Nat.zero_add _) remembers_nil (start.symm ▸ straight) encloses_nil with ⟨none, -⟩ | walks
  · exact absurd none (Nat.succ_ne_zero _)
  · rw [start, split] at walks
    unfold canonical
    generalize disk.walkPath true (depth + 1) [] _ _ = r at walks ⊢
    cases walks with
    | @arrived _ path _ leads _ =>
      have leads := leads.of_voids void
      cases seen : disk.absolute path with
      | ok p => exact .inl ⟨p, by simp [seen], _, path, leads, seen⟩
      | error fault => exact .inr ⟨fault, by simp [seen], .unseen leads seen⟩
    | @stopped fault stops => exact .inr ⟨fault, rfl, .stopped (stops.of_voids void)⟩

theorem Resolves.unique {p' : Path} (h : disk.Resolves text p) (h' : disk.Resolves text p') :
    p = p' := by
  obtain ⟨_, path, leads, seen⟩ := h
  obtain ⟨_, path', leads', seen'⟩ := h'
  cases leads.unique leads'
  exact Except.ok.inj (seen.symm.trans seen')

/-- A text that resolves does not fail. -/
theorem Resolves.not_fails (h : disk.Resolves text p) (shallow : fault ≠ tooManyOpen) :
    ¬ disk.Fails depth text fault := by
  obtain ⟨_, path, leads, seen⟩ := h
  intro fails
  cases fails with
  | stopped stops => exact stops.not_leads shallow encloses_nil leads
  | unseen leads' lost =>
    cases leads.unique leads'
    cases seen.symm.trans lost

/-- A text fails for one reason. -/
theorem Fails.unique {fault' : Fault} (h : disk.Fails depth text fault)
    (h' : disk.Fails depth text fault') (shallow : fault ≠ tooManyOpen)
    (shallow' : fault' ≠ tooManyOpen) : fault = fault' := by
  cases h with
  | stopped stops =>
    cases h' with
    | stopped stops' => exact stops.unique stops' shallow shallow' encloses_nil
    | unseen leads _ => exact absurd leads (stops.not_leads shallow encloses_nil)
  | unseen leads lost =>
    cases h' with
    | stopped stops => exact absurd leads (stops.not_leads shallow' encloses_nil)
    | unseen leads' lost' =>
      cases leads.unique leads'
      exact Except.error.inj (lost.symm.trans lost')

/-- **The canonical path of a text is the one that it resolves to**, unless links are nested too
deeply. -/
theorem canonical_eq_ok_iff (shallow : ¬ disk.Fails depth text tooManyOpen) :
    disk.canonical depth true text = .ok p ↔ disk.Resolves text p := by
  rcases disk.canonical_cases depth text with ⟨p', given, resolves⟩ | ⟨fault, given, fails⟩
  · rw [given, Except.ok.injEq]
    exact ⟨fun same => same ▸ resolves, resolves.unique⟩
  · rw [given]
    have other : fault ≠ tooManyOpen := fun deep => shallow (deep ▸ fails)
    exact ⟨(fun same => nomatch same), fun resolves => absurd fails (resolves.not_fails other)⟩

/-- **There is no canonical path exactly for the reason why the text fails**, unless links are
nested too deeply. -/
theorem canonical_eq_error_iff (shallow : ¬ disk.Fails depth text tooManyOpen) :
    disk.canonical depth true text = .error fault ↔ disk.Fails depth text fault := by
  have other {fault : Fault} (fails : disk.Fails depth text fault) : fault ≠ tooManyOpen :=
    fun deep => shallow (deep ▸ fails)
  rcases disk.canonical_cases depth text with ⟨p, given, resolves⟩ | ⟨fault', given, fails⟩
  · rw [given]
    exact ⟨(fun same => nomatch same),
      fun fails => absurd fails (resolves.not_fails (other fails))⟩
  · rw [given, Except.error.injEq]
    exact ⟨fun same => same ▸ fails, fun fails' => fails.unique fails' (other fails) (other fails')⟩

/-! ## Reasons -/

/-- Why names are stopped: the system says so, or they cannot be told to the system, or a link goes
round, or links are nested too deeply. -/
theorem Stops.cases (h : disk.Stops depth opened path names fault) :
    fault.isSystem = true ∨ fault = .nulInPath ∨ fault = tooManyOpen ∨
      ∃ link : Path, fault = loopFault link.text ∧
        disk.stat link.text = .error (.onPath .tooManyLinks link.text) := by
  induction h with
  | here blocks =>
    cases blocks with
    | refused _ _ _ system | barred _ _ _ system _ => exact .inl system
    | unprintable _ _ _ => exact .inr (.inl rfl)
    | deep _ _ _ => exact .inr (.inr (.inl rfl))
    | round _ _ told => exact .inr (.inr (.inr ⟨_, rfl, told⟩))
  | step _ _ ih | past _ _ _ ih | inside _ _ _ ih => exact ih

theorem Fails.cases (h : disk.Fails depth text fault) :
    fault.isSystem = true ∨ fault = .nulInPath ∨ fault = tooManyOpen ∨
      ∃ link : Path, fault = loopFault link.text ∧
        disk.stat link.text = .error (.onPath .tooManyLinks link.text) := by
  cases h with
  | stopped stops => exact stops.cases
  | unseen _ lost => exact .inl (isSystem_of_absolute lost)

/-- **What a text resolves to is an entry of the tree at just this location**, and no link. -/
theorem Resolves.stands (h : disk.Resolves text p) (seated : disk.Seated) :
    ∃ location entry, p = ⟨.root, location.reverse⟩ ∧ disk.Stands location entry ∧
      entry.isLink = false := by
  obtain ⟨_, path, leads, seen⟩ := h
  obtain ⟨place, straight⟩ := disk.straight_walkStart text
  obtain ⟨place', entry, arrived⟩ := leads.arrived (.directory straight)
  obtain ⟨same, stands⟩ := arrived.absolute_eq seated seen
  exact ⟨place'.location, entry, same, stands, arrived.isLink_eq⟩

end Disk

end ServerLaunch
