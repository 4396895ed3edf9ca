import ServerLaunch.Proofs.Links
import ServerLaunch.Proofs.Walking

/-!
# Straight paths

A path is straight if no link lies on it. The system finds its names one below another, just as
they are written, and asks nothing else on the way. A path that is resolved is straight wherever it
has got to, so that what the system says about the next name is what stands there in the tree. In
the end, the names of the resolved path are the location of what it leads to.

## Main definitions

* `Disk.Straight`: a path leads through directories only.
* `Disk.Arrived`: a straight path leads to an entry.
* `Disk.Seated`: the working directory is one of the tree.

**Main statements.** Where names lead is reached on a straight path (`Leads.arrived`). Seen from
the root, such a path is the location of its entry (`Arrived.absolute_eq`).
-/
namespace ServerLaunch

/-- Two dots undo a name. -/
theorem Path.up_child (path : Path) {name : String} (down : name ≠ "..") :
    (path.child name).up = path := by
  simp [up, child, parent, down]

/-- A path with names put behind it, two dots undoing the name before them. -/
def Path.extend (path : Path) (names : List String) : Path :=
  names.foldl (fun q name => if name = ".." then q.up else q.child name) path

namespace Path

variable {path : Path}

theorem collapse_eq_extend : path.collapse = extend ⟨path.start, []⟩ path.names := rfl

theorem extend_append (front rest : List String) :
    path.extend (front ++ rest) = (path.extend front).extend rest := List.foldl_append ..

theorem extend_up : path.extend [".."] = path.up := rfl

theorem extend_child {name : String} (down : name ≠ "..") :
    path.extend [name] = path.child name := if_neg down

/-- Names that are no dots stay as they are. -/
theorem extend_of_not_mem {names : List String} (plain : ".." ∉ names) :
    path.extend names = ⟨path.start, path.names ++ names⟩ := by
  induction names generalizing path with
  | nil => simp [extend]
  | cons name rest ih =>
    rw [List.mem_cons, not_or] at plain
    have first : path.extend (name :: rest) = (path.child name).extend rest := by
      rw [← extend_child (Ne.symm plain.1), ← extend_append]
      rfl
    rw [first, ih plain.2]
    simp [child]

end Path

/-- The directory above a name is the one where it was looked up. -/
theorem Place.up_ofLocation {place : Place} (there : place.lost = 0) (name : String) :
    (Place.ofLocation (name :: place.location)).up = place := by
  obtain ⟨location, lost⟩ := place
  obtain rfl : lost = 0 := there
  rfl

namespace Disk

variable {disk : Disk} {path next reached p : Path} {name target : String} {names : List String}
  {place : Place} {entry found : Entry} {fault : Fault} {count : Nat}

/-! ## Directories on the way -/

/-- A path leads through directories only. -/
inductive Straight (disk : Disk) : Path → Place → Prop
  | root : Straight disk ⟨.root, []⟩ (.ofLocation [])
  | here : Straight disk ⟨.relative, []⟩ disk.workingDir
  | out {names : List String} {place : Place} (h : Straight disk ⟨.relative, names⟩ place) :
      Straight disk ⟨.relative, names ++ [".."]⟩ place.up
  | into {path : Path} {place : Place} {name : String} (h : Straight disk path place)
      (named : Path.IsName name) (passes : FileTree.Passes name place)
      (found : disk.tree.get? (name :: place.location) = some .directory) :
      Straight disk (path.child name) (.ofLocation (name :: place.location))

theorem Straight.plain (h : disk.Straight path place) : path.Plain := by
  induction h with
  | root | here => exact fun _ listed => nomatch listed
  | out _ ih => exact ih.child ⟨by decide, by decide⟩
  | into _ named _ _ ih => exact ih.child named

/-- A walk along a straight path goes on from its place. -/
theorem Straight.walk_append (h : disk.Straight path place) (followLast : Bool) (links : Nat)
    (rest : List String) :
    disk.tree.walk followLast links (disk.startOf path) (path.names ++ rest) =
      disk.tree.walk followLast links place rest := by
  induction h generalizing rest with
  | root | here => rfl
  | out _ ih =>
    have onward := ih (".." :: rest)
    rw [FileTree.walk_up] at onward
    rw [← onward, List.append_assoc]
    rfl
  | @into path _ name _ _ passes found ih =>
    have onward := ih (name :: rest)
    rw [FileTree.walk_passes passes, found] at onward
    rw [Path.child, List.append_assoc]
    exact onward

theorem Straight.up (h : disk.Straight path place) : disk.Straight path.up place.up := by
  cases h with
  | root => exact .root
  | here => exact .out .here
  | @out names place h =>
    have again : Path.up ⟨.relative, names ++ [".."]⟩ = ⟨.relative, names ++ [".."] ++ [".."]⟩ := by
      simp [Path.up, Path.child]
    exact again ▸ .out (.out h)
  | into h _ passes _ =>
    rw [Path.up_child _ passes.down, Place.up_ofLocation passes.there]
    exact h

/-! ## Arriving -/

/-- A straight path leads to an entry: it ends at a directory, or one more name is that of a
file. -/
inductive Arrived (disk : Disk) : Path → Place → Entry → Prop
  | directory {path : Path} {place : Place} (h : disk.Straight path place) :
      Arrived disk path place .directory
  | file {path : Path} {place : Place} {name : String} {content : List UInt8} {mode : Nat}
      (h : disk.Straight path place) (named : Path.IsName name)
      (passes : FileTree.Passes name place)
      (found : disk.tree.get? (name :: place.location) = some (.file content mode)) :
      Arrived disk (path.child name) (.ofLocation (name :: place.location)) (.file content mode)

/-- What is arrived at is no link. -/
theorem Arrived.isLink_eq (h : disk.Arrived path place entry) : entry.isLink = false := by
  cases h <;> rfl

theorem Arrived.up (h : disk.Arrived path place entry) :
    disk.Straight path.up place.up := by
  cases h with
  | directory h => exact h.up
  | file h _ passes _ =>
    rw [Path.up_child _ passes.down, Place.up_ofLocation passes.there]
    exact h

/-- Looking a name up below a straight path. -/
theorem Straight.locate_child (h : disk.Straight path place) (named : Path.IsName name)
    (followLast : Bool) :
    disk.locate followLast (path.child name).text =
      if pathLimit ≤ (path.child name).text.utf8ByteSize then .error .nameTooLong
      else disk.tree.walk followLast linkLimit place [name] := by
  rw [locate_text (h.plain.child named), ← h.walk_append]
  rfl

/-- No name lies below a file. -/
theorem Straight.locate_child_file {file : String} {content : List UInt8} {mode : Nat}
    (h : disk.Straight path place) (named : Path.IsName file)
    (passes : FileTree.Passes file place)
    (found : disk.tree.get? (file :: place.location) = some (.file content mode))
    (named' : Path.IsName name) (followLast : Bool) :
    disk.locate followLast ((path.child file).child name).text =
      if pathLimit ≤ ((path.child file).child name).text.utf8ByteSize then .error .nameTooLong
      else .error .notDirectory := by
  have stuck : disk.tree.walk followLast linkLimit place [file, name] = .error .notDirectory := by
    rw [FileTree.walk_passes passes, found]
    rfl
  rw [locate_text ((h.plain.child named).child named'), ← stuck, ← h.walk_append]
  simp only [Path.child, List.append_assoc]
  rfl

/-- A name is looked up where it lies, or there is another reason than links why it cannot be. -/
theorem walk_name (named : Path.IsName name) (down : name ≠ "..") :
    (∃ number, number ≠ .tooManyLinks ∧
        disk.tree.walk false linkLimit place [name] = .error number) ∨
      ∃ entry, FileTree.Passes name place ∧
        disk.tree.get? (name :: place.location) = some entry ∧
        disk.tree.walk false linkLimit place [name] =
          .ok (.ofLocation (name :: place.location)) := by
  by_cases there : place.lost = 0
  · by_cases short : name.utf8ByteSize ≤ nameLimit
    · have passes : FileTree.Passes name place := ⟨named.1, down, there, short⟩
      rw [FileTree.walk_passes passes]
      cases stands : disk.tree.get? (name :: place.location) with
      | none => exact .inl ⟨_, by decide, rfl⟩
      | some entry =>
        refine .inr ⟨entry, passes, rfl, ?_⟩
        cases entry <;> simp
    · refine .inl ⟨.nameTooLong, by decide, ?_⟩
      simp [FileTree.walk_eq, FileTree.walkNames, named.1, down, there, Nat.not_le.1 short]
  · refine .inl ⟨.noEntry, by decide, ?_⟩
    simp [FileTree.walk_eq, FileTree.walkNames, named.1, down, there]

theorem entryAt_of_locate_error {followLast : Bool} {text : String} {number : Errno}
    (printable : '\x00' ∉ text.toList) (failed : disk.locate followLast text = .error number) :
    disk.entryAt followLast text = .error (.onPath number text) := by
  simp [entryAt, printable, failed]

/-- What the system says of a name below a path that has been reached: it cannot be told of the
name, it has another reason than links, or it gives what stands there. -/
theorem Arrived.lstat_cases (h : disk.Arrived path place entry) (named : Path.IsName name)
    (down : name ≠ "..") :
    '\x00' ∈ (path.child name).text.toList ∨
      (∃ number, number ≠ .tooManyLinks ∧
        disk.lstat (path.child name).text = .error (.onPath number (path.child name).text)) ∨
      ∃ found, disk.Straight path place ∧ FileTree.Passes name place ∧
        disk.tree.get? (name :: place.location) = some found ∧
        disk.lstat (path.child name).text = .ok found := by
  by_cases nul : '\x00' ∈ (path.child name).text.toList
  · exact .inl nul
  refine .inr ?_
  by_cases long : pathLimit ≤ (path.child name).text.utf8ByteSize
  · refine .inl ⟨.nameTooLong, by decide, entryAt_of_locate_error nul ?_⟩
    cases h with
    | directory h => rw [h.locate_child named, if_pos long]
    | file h named' passes found => rw [h.locate_child_file named' passes found named, if_pos long]
  · cases h with
    | directory h =>
      have looked := h.locate_child named false
      rw [if_neg long] at looked
      rcases @walk_name disk _ place named down with
        ⟨number, other, failed⟩ | ⟨found, passes, stands, walked⟩
      · exact .inl ⟨number, other, entryAt_of_locate_error nul (looked.trans failed)⟩
      · refine .inr ⟨found, h, passes, stands, ?_⟩
        have stood : disk.tree.entryOn (.ofLocation (name :: place.location)) = some found := stands
        simp [lstat, entryAt, nul, looked, walked, stood]
    | file h named' passes found =>
      have looked := h.locate_child_file named' passes found named false
      rw [if_neg long] at looked
      exact .inl ⟨_, by decide, entryAt_of_locate_error nul looked⟩

/-- What is there lies below a directory. -/
theorem Arrived.of_lstat (h : disk.Arrived path place entry) (named : Path.IsName name)
    (down : name ≠ "..") (told : disk.lstat (path.child name).text = .ok found) :
    disk.Straight path place ∧ FileTree.Passes name place ∧
      disk.tree.get? (name :: place.location) = some found := by
  rcases h.lstat_cases named down with nul | ⟨_, _, failed⟩ | ⟨_, straight, passes, stands, same⟩
  · cases (lstat_of_nul nul).symm.trans told
  · cases failed.symm.trans told
  · cases same.symm.trans told
    exact ⟨straight, passes, stands⟩

/-- A step arrives. -/
theorem Step.arrived (step : disk.Step path name next) (h : disk.Arrived path place entry) :
    ∃ place' entry', disk.Arrived next place' entry' := by
  cases step with
  | void _ => exact ⟨_, _, h⟩
  | up => exact ⟨_, _, .directory h.up⟩
  | @enter _ found named down told plain =>
    obtain ⟨straight, passes, stands⟩ := h.of_lstat named down told
    cases found with
    | directory => exact ⟨_, _, .directory (.into straight named passes stands)⟩
    | file content mode => exact ⟨_, _, .file straight named passes stands⟩
    | link target => cases plain

/-- The target of a link is followed from where the system follows it. -/
theorem Linked.arrived (linked : disk.Linked path name target)
    (h : disk.Arrived path place entry) :
    disk.Straight (walkStart path target) (FileTree.linkStart target place) := by
  obtain ⟨straight, -, -⟩ := h.of_lstat linked.named linked.down linked.found
  unfold walkStart FileTree.linkStart
  split
  · exact .root
  · exact straight

/-- **Where names lead is reached on a straight path.** -/
theorem Leads.arrived (leads : disk.Leads count path names reached)
    (h : disk.Arrived path place entry) :
    ∃ place' entry', disk.Arrived reached place' entry' := by
  induction leads generalizing place entry with
  | done => exact ⟨_, _, h⟩
  | step step _ ih =>
    obtain ⟨_, _, next⟩ := step.arrived h
    exact ih next
  | link linked _ _ inward_ih onward_ih =>
    obtain ⟨_, _, next⟩ := inward_ih (.directory (linked.arrived h))
    exact onward_ih next

/-! ## Following a link that is met again -/

/-- The number of links that the system follows from a place is a bound on the links to come. -/
theorem descends_walk :
    disk.Descends fun count path names => ∃ place entry there, disk.Arrived path place entry ∧
      disk.tree.walk true count place names = .ok there where
  step := by
    rintro count path next name rest step ⟨place, entry, there, h, walked⟩
    cases step with
    | void void => exact ⟨_, _, there, h, (FileTree.walk_void void).symm.trans walked⟩
    | up => exact ⟨_, _, there, .directory h.up, FileTree.walk_up.symm.trans walked⟩
    | @enter _ found named down told plain =>
      obtain ⟨straight, passes, stands⟩ := h.of_lstat named down told
      rw [FileTree.walk_passes passes, stands] at walked
      cases found with
      | directory =>
        exact ⟨_, _, there, .directory (.into straight named passes stands), walked⟩
      | file content mode =>
        -- The walk of the system ends at a file.
        refine ⟨_, _, .ofLocation (name :: place.location), .file straight named passes stands, ?_⟩
        cases rest with
        | nil => exact FileTree.walk_nil
        | cons name rest => cases walked
      | link target => cases plain
  link := by
    rintro count path name target rest linked ⟨place, entry, there, h, walked⟩
    obtain ⟨-, passes, stands⟩ := h.of_lstat linked.named linked.down linked.found
    rw [FileTree.walk_passes passes, stands] at walked
    cases count with
    | zero => simp [FileTree.follow] at walked
    | succ count =>
      refine ⟨count, Nat.lt_succ_self _, _, _, there, .directory (linked.arrived h), ?_⟩
      simpa [FileTree.follow] using walked

/-- The system does not follow a link that is met again to its end. -/
theorem Encloses.stat_again {opened : List Path} {rest : List String}
    (encloses : disk.Encloses opened path (name :: rest)) (again : path.child name ∈ opened)
    (linked : disk.Linked path name target) (h : disk.Arrived path place entry) :
    ∃ number, disk.stat (path.child name).text = .error (.onPath number (path.child name).text) := by
  obtain ⟨straight, -, -⟩ := h.of_lstat linked.named linked.down linked.found
  have printable : '\x00' ∉ (path.child name).text.toList := fun nul =>
    nomatch (lstat_of_nul nul).symm.trans linked.found
  cases located : disk.locate true (path.child name).text with
  | error number => exact ⟨number, entryAt_of_locate_error printable located⟩
  | ok there =>
    rw [straight.locate_child linked.named] at located
    split at located
    · cases located
    · exact absurd ⟨place, _, there, .directory straight, located⟩
        (encloses.not_again again descends_walk linkLimit [])

/-! ## Locations -/

/-- The working directory is one of the tree, below directories, and none of them is named by two
dots. Where it was removed, nothing is asked of the tree. -/
structure Seated (disk : Disk) : Prop where
  named : ".." ∉ disk.workingDir.location
  stands : disk.workingDir.lost = 0 → ∀ above, above <:+ disk.workingDir.location →
    disk.tree.get? above = some .directory

/-- The root is a seat. -/
theorem seated_root (tree : FileTree) : (⟨tree, .ofLocation []⟩ : Disk).Seated where
  named := List.not_mem_nil
  stands _ above higher := by
    rw [List.suffix_nil.1 higher]
    rfl

/-- An entry stands at a location, below directories. -/
structure Stands (disk : Disk) (location : Location) (entry : Entry) : Prop where
  found : disk.tree.get? location = some entry
  above : ∀ higher, higher <:+ location → higher ≠ location →
    disk.tree.get? higher = some .directory

/-- Straight paths lead through directories of the tree. -/
theorem Straight.stands (h : disk.Straight path place) (seated : disk.Seated)
    (there : path.isAbsolute = true ∨ disk.workingDir.lost = 0) {above : Location}
    (higher : above <:+ place.location) : disk.tree.get? above = some .directory := by
  induction h generalizing above with
  | root =>
    rw [List.suffix_nil.1 higher]
    rfl
  | here => exact seated.stands (there.resolve_left (by decide)) above higher
  | out _ ih => exact ih there (higher.trans (List.tail_suffix _))
  | into _ _ _ found ih =>
    rcases List.suffix_cons_iff.1 higher with rfl | higher
    · exact found
    · exact ih there higher

theorem Arrived.stands (h : disk.Arrived path place entry) (seated : disk.Seated)
    (there : path.isAbsolute = true ∨ disk.workingDir.lost = 0) :
    disk.Stands place.location entry := by
  cases h with
  | directory h =>
    exact ⟨h.stands seated there List.suffix_rfl, fun _ higher _ => h.stands seated there higher⟩
  | file h _ _ found =>
    refine ⟨found, fun above higher other => ?_⟩
    rcases List.suffix_cons_iff.1 higher with same | higher
    · exact absurd same other
    · exact h.stands seated there higher

/-- The names of a path that has been reached spell its place, from the place where it starts. -/
theorem Straight.extend_eq (h : disk.Straight path place) :
    Path.extend ⟨.root, (disk.startOf path).location.reverse⟩ path.names =
      ⟨.root, place.location.reverse⟩ := by
  induction h with
  | root | here => rfl
  | @out names place _ ih =>
    have start : disk.startOf ⟨.relative, names ++ [".."]⟩ = disk.startOf ⟨.relative, names⟩ := rfl
    rw [Path.extend_append, start, ih, Path.extend_up]
    simp [Path.up, Path.parent, Place.up, List.dropLast_reverse]
  | @into path place name _ _ passes _ ih =>
    have start : disk.startOf (path.child name) = disk.startOf path := rfl
    rw [start, Path.child, Path.extend_append, ih, Path.extend_child passes.down]
    simp [Path.child, Place.ofLocation]

theorem Arrived.extend_eq (h : disk.Arrived path place entry) :
    Path.extend ⟨.root, (disk.startOf path).location.reverse⟩ path.names =
      ⟨.root, place.location.reverse⟩ := by
  cases h with
  | directory h => exact h.extend_eq
  | @file path place name _ _ h _ passes _ =>
    have start : disk.startOf (path.child name) = disk.startOf path := rfl
    rw [start, Path.child, Path.extend_append, h.extend_eq, Path.extend_child passes.down]
    simp [Path.child, Place.ofLocation]

/-- A path that has been reached starts at the root or at the working directory. -/
theorem Straight.start_cases (h : disk.Straight path place) :
    path.start = .root ∨ path.start = .relative := by
  induction h with
  | root => exact .inl rfl
  | here | out _ _ => exact .inr rfl
  | into _ _ _ _ ih => exact ih

theorem Arrived.start_cases (h : disk.Arrived path place entry) :
    path.start = .root ∨ path.start = .relative := by
  cases h with
  | directory h | file h _ _ _ => exact h.start_cases

/-- **Seen from the root, a path that has been reached is the location of its entry**, which stands
there below directories. -/
theorem Arrived.absolute_eq (h : disk.Arrived path place entry) (seated : disk.Seated)
    (seen : disk.absolute path = .ok p) :
    p = ⟨.root, place.location.reverse⟩ ∧ disk.Stands place.location entry := by
  have spelt := h.extend_eq
  unfold absolute at seen
  rcases h.start_cases with start | start
  · have rooted : path.isAbsolute = true := by simp [Path.isAbsolute, start]
    rw [if_pos rooted] at seen
    rw [startOf, if_pos rooted] at spelt
    refine ⟨?_, h.stands seated (.inl rooted)⟩
    rw [← spelt, ← Except.ok.inj seen, Path.collapse_eq_extend, start]
    rfl
  · have relative : ¬ path.isAbsolute = true := by simp [Path.isAbsolute, start]
    rw [if_neg relative] at seen
    rw [startOf, if_neg relative] at spelt
    split at seen
    · next there =>
      refine ⟨?_, h.stands seated (.inr there)⟩
      have plain : ".." ∉ disk.workingDir.location.reverse := by simpa using seated.named
      have joined : (Path.join ⟨.root, disk.workingDir.location.reverse⟩ path) =
          ⟨.root, disk.workingDir.location.reverse ++ path.names⟩ := by
        simp [Path.join, relative]
      rw [← spelt, ← Except.ok.inj seen, joined, Path.collapse_eq_extend, Path.extend_append,
        Path.extend_of_not_mem plain, List.nil_append]
    · cases seen

end Disk

end ServerLaunch
