import ServerLaunch.Files.Canonical
import ServerLaunch.Proofs.Paths

/-!
# Links that are resolved

A path is resolved from the left. What the system says about each name decides how it goes on: a
link is resolved first, from the place that has been reached, and the rest of the path is resolved
from where the link led. The rules below say so without the memory of the links that were met and
without an order of the questions. They keep two things apart: where a path leads, however many
links lie on the way, and what keeps it from leading anywhere.

A link that is met again while it is being resolved leads nowhere. The reason is a descent. Any
bound on the links that are still to be followed goes down each time a link is replaced by its
target, so that no bound holds at a link that comes back to itself.

## Main definitions

* `Disk.Step`, `Disk.Linked`: a name that is no link, and a link.
* `Disk.Leads`: where names lead, and the number of links on the way.
* `Disk.Stops`: what keeps names from leading anywhere, inside links that are being resolved.
* `Disk.Descends`, `Disk.Encloses`: a bound on the links to come, and links that lead to a place
  with a smaller one.

**Main statements.** A link that is met again has no bound (`Encloses.not_again`). Hence names that
are stopped lead nowhere (`Stops.not_leads`), and they are stopped in one way (`Stops.unique`),
unless links are nested too deeply.
-/
namespace ServerLaunch

theorem Path.child_inj {p q : Path} {name other : String} (h : p.child name = q.child other) :
    p = q ∧ name = other := by
  obtain ⟨start, names⟩ := p
  obtain ⟨start', names'⟩ := q
  simp only [child, Path.mk.injEq] at h
  obtain ⟨rfl, same⟩ := h
  obtain ⟨rfl, last⟩ := List.append_inj' same rfl
  exact ⟨rfl, List.singleton_inj.1 last⟩

namespace Disk

variable {disk : Disk} {path next next' reached reached' : Path} {name target target' : String}
  {rest names : List String} {count count' inner depth : Nat} {opened : List Path}
  {fault fault' : Fault} {M : Nat → Path → List String → Prop}

/-! ## One name -/

/-- A name that is no link leads on: one that says nothing stays, two dots undo the name before
them, and any other one has to be there. -/
inductive Step (disk : Disk) : Path → String → Path → Prop
  | void {path : Path} {name : String} (void : Path.isVoid name = true) : Step disk path name path
  | up {path : Path} : Step disk path ".." path.up
  | enter {path : Path} {name : String} {entry : Entry} (named : Path.IsName name)
      (down : name ≠ "..") (found : disk.lstat (path.child name).text = .ok entry)
      (plain : entry.isLink = false) : Step disk path name (path.child name)

/-- A link of a name lies below a path. -/
structure Linked (disk : Disk) (path : Path) (name target : String) : Prop where
  named : Path.IsName name
  down : name ≠ ".."
  found : disk.lstat (path.child name).text = .ok (.link target)

/-- The step that a telling name takes is the one to what is there. -/
theorem Step.entered (h : disk.Step path name next) (named : Path.IsName name)
    (down : name ≠ "..") :
    next = path.child name ∧
      ∃ entry, disk.lstat (path.child name).text = .ok entry ∧ entry.isLink = false := by
  cases h with
  | void void => exact absurd (void.symm.trans named.1) (by decide)
  | up => exact absurd rfl down
  | enter _ _ found plain => exact ⟨rfl, _, found, plain⟩

theorem Step.not_linked (h : disk.Step path name next) : ¬ disk.Linked path name target := by
  rintro ⟨named, down, found⟩
  obtain ⟨-, entry, found', plain⟩ := h.entered named down
  cases found'.symm.trans found
  cases plain

theorem Step.unique (h : disk.Step path name next) (h' : disk.Step path name next') :
    next = next' := by
  cases h with
  | void void =>
    cases h' with
    | void _ => rfl
    | up => exact absurd void (by decide)
    | enter named _ _ _ => exact absurd (void.symm.trans named.1) (by decide)
  | up =>
    cases h' with
    | void void => exact absurd void (by decide)
    | up => rfl
    | enter _ down _ _ => exact absurd rfl down
  | enter named down _ _ => exact (h'.entered named down).1.symm

theorem Linked.unique (h : disk.Linked path name target) (h' : disk.Linked path name target') :
    target = target' := by
  have same := h.found.symm.trans h'.found
  cases same
  rfl

/-! ## Where names lead -/

/-- Names lead from a path to another one, with so many links on the way. There is no limit to
them here. -/
inductive Leads (disk : Disk) : Nat → Path → List String → Path → Prop
  | done {path : Path} : Leads disk 0 path [] path
  | step {count : Nat} {path next reached : Path} {name : String} {rest : List String}
      (step : disk.Step path name next) (onward : Leads disk count next rest reached) :
      Leads disk count path (name :: rest) reached
  | link {inner count : Nat} {path next reached : Path} {name target : String}
      {rest : List String} (linked : disk.Linked path name target)
      (inward : Leads disk inner (walkStart path target) (Path.rawNames target) next)
      (onward : Leads disk count next rest reached) :
      Leads disk (inner + count + 1) path (name :: rest) reached

theorem Leads.append (h : disk.Leads count path names next)
    (onward : disk.Leads count' next rest reached) :
    disk.Leads (count + count') path (names ++ rest) reached := by
  induction h with
  | done => simpa using onward
  | step step _ ih => exact .step step (ih onward)
  | @link inner count _ _ _ _ _ _ linked inward _ _ ih =>
    have sum : inner + (count + count') + 1 = inner + count + 1 + count' := by omega
    exact sum ▸ .link linked inward (ih onward)

theorem Leads.of_step (h : disk.Leads count path (name :: rest) reached)
    (step : disk.Step path name next) : disk.Leads count next rest reached := by
  cases h with
  | step step' onward => exact step'.unique step ▸ onward
  | link linked _ _ => exact absurd linked step.not_linked

theorem Leads.of_linked (h : disk.Leads count path (name :: rest) reached)
    (linked : disk.Linked path name target) :
    ∃ inner next later, disk.Leads inner (walkStart path target) (Path.rawNames target) next ∧
      disk.Leads later next rest reached ∧ inner + later < count := by
  cases h with
  | step step _ => exact absurd linked step.not_linked
  | link linked' inward onward =>
    exact ⟨_, _, _, linked'.unique linked ▸ inward, onward, Nat.lt_succ_self _⟩

/-- Names lead to one path only. -/
theorem Leads.unique (h : disk.Leads count path names reached)
    (h' : disk.Leads count' path names reached') : reached = reached' := by
  induction h generalizing count' reached' with
  | done =>
    cases h'
    rfl
  | step step _ ih => exact ih (h'.of_step step)
  | link linked _ _ inward_ih onward_ih =>
    obtain ⟨_, _, _, inward, onward, -⟩ := h'.of_linked linked
    exact onward_ih (inward_ih inward ▸ onward)

/-! ## Bounds on the links to come -/

/-- A bound on the links to come from a path: a name that is no link keeps it, and it goes down
where a link is replaced by its target. -/
structure Descends (disk : Disk) (M : Nat → Path → List String → Prop) : Prop where
  step : ∀ {count : Nat} {path next : Path} {name : String} {rest : List String},
    disk.Step path name next → M count path (name :: rest) → M count next rest
  link : ∀ {count : Nat} {path : Path} {name target : String} {rest : List String},
    disk.Linked path name target → M count path (name :: rest) →
      ∃ fewer < count, M fewer (walkStart path target) (Path.rawNames target ++ rest)

/-- Where names lead, the number of links on the way is such a bound. -/
theorem descends_leads :
    disk.Descends fun count path names => ∃ reached, disk.Leads count path names reached where
  step step := fun ⟨reached, leads⟩ => ⟨reached, leads.of_step step⟩
  link linked := fun ⟨reached, leads⟩ =>
    let ⟨_, _, _, inward, onward, fewer⟩ := leads.of_linked linked
    ⟨_, fewer, reached, inward.append onward⟩

/-- Names that lead on keep a bound, or take something off it. -/
theorem Descends.of_leads (descends : disk.Descends M) (h : disk.Leads inner path names next)
    (bound : M count path (names ++ rest)) : ∃ fewer ≤ count, M fewer next rest := by
  induction h generalizing count rest with
  | done => exact ⟨count, Nat.le_refl _, bound⟩
  | step step _ ih => exact ih (descends.step step bound)
  | link linked _ _ inward_ih onward_ih =>
    obtain ⟨first, less, bound⟩ := descends.link linked bound
    obtain ⟨second, noMore, bound⟩ := inward_ih bound
    obtain ⟨third, noMore', bound⟩ := onward_ih bound
    exact ⟨third, by omega, bound⟩

/-- Links lead to a place with a smaller bound than their own. -/
def Encloses (disk : Disk) (opened : List Path) (path : Path) (names : List String) : Prop :=
  ∀ M, disk.Descends M → ∀ above name, Path.child above name ∈ opened → ∀ count rest,
    M count above (name :: rest) → ∃ fewer < count, ∃ more, M fewer path (names ++ more)

/-- No link leads anywhere yet. -/
theorem encloses_nil : disk.Encloses [] path names :=
  fun _ _ _ _ listed => nomatch listed

theorem Encloses.step (h : disk.Encloses opened path (name :: rest))
    (step : disk.Step path name next) : disk.Encloses opened next rest := by
  intro M descends above other listed count more bound
  obtain ⟨fewer, less, more, bound⟩ := h M descends above other listed count more bound
  exact ⟨fewer, less, more, descends.step step bound⟩

theorem Encloses.past (h : disk.Encloses opened path (name :: rest))
    (linked : disk.Linked path name target)
    (inward : disk.Leads inner (walkStart path target) (Path.rawNames target) next) :
    disk.Encloses opened next rest := by
  intro M descends above other listed count more bound
  obtain ⟨first, less, more, bound⟩ := h M descends above other listed count more bound
  obtain ⟨second, less', bound⟩ := descends.link linked bound
  obtain ⟨third, noMore, bound⟩ := descends.of_leads inward bound
  exact ⟨third, by omega, more, bound⟩

/-- A link that is opened encloses its target. -/
theorem Encloses.inside (h : disk.Encloses opened path (name :: rest))
    (linked : disk.Linked path name target) :
    disk.Encloses (path.child name :: opened) (walkStart path target) (Path.rawNames target) := by
  intro M descends above other listed count more bound
  rcases List.mem_cons.1 listed with same | earlier
  · obtain ⟨rfl, rfl⟩ := Path.child_inj same
    obtain ⟨fewer, less, bound⟩ := descends.link linked bound
    exact ⟨fewer, less, more, bound⟩
  · obtain ⟨first, less, more, bound⟩ := h M descends above other earlier count more bound
    obtain ⟨second, less', bound⟩ := descends.link linked bound
    exact ⟨second, by omega, rest ++ more, bound⟩

/-- **A link that is met again while it is being resolved has no bound.** -/
theorem Encloses.not_again (h : disk.Encloses opened path (name :: rest))
    (again : path.child name ∈ opened) (descends : disk.Descends M) (count : Nat)
    (more : List String) : ¬ M count path (name :: more) := by
  induction count using Nat.strongRecOn generalizing more with
  | ind count ih =>
    intro bound
    obtain ⟨fewer, less, more, bound⟩ := h M descends path name again count more bound
    exact ih fewer less (rest ++ more) bound

/-! ## What stops names -/

/-- What stops a name below a path, inside links that are being resolved: the system refuses it,
it cannot be handed to the system, it is a link that is met again and goes round or comes to
something that the system refuses, or it is a link and `depth` of them are open. -/
inductive Blocks (disk : Disk) (depth : Nat) (opened : List Path) (path : Path) (name : String) :
    Fault → Prop
  | refused {fault : Fault} (named : Path.IsName name) (down : name ≠ "..")
      (told : disk.lstat (path.child name).text = .error fault) (system : fault.isSystem = true) :
      Blocks disk depth opened path name fault
  | unprintable (named : Path.IsName name) (down : name ≠ "..")
      (nul : '\x00' ∈ (path.child name).text.toList) : Blocks disk depth opened path name .nulInPath
  | round {target : String} (linked : disk.Linked path name target)
      (again : path.child name ∈ opened)
      (told : disk.stat (path.child name).text =
        .error (.onPath .tooManyLinks (path.child name).text)) :
      Blocks disk depth opened path name (loopFault (path.child name).text)
  | barred {target : String} {fault : Fault} (linked : disk.Linked path name target)
      (again : path.child name ∈ opened)
      (told : disk.stat (path.child name).text = .error fault) (system : fault.isSystem = true)
      (other : fault ≠ .onPath .tooManyLinks (path.child name).text) :
      Blocks disk depth opened path name fault
  | deep {target : String} (linked : disk.Linked path name target)
      (fresh : path.child name ∉ opened) (limit : depth ≤ opened.length) :
      Blocks disk depth opened path name tooManyOpen

/-- What stops names that follow a path, inside links that are being resolved, where at most
`depth` of them may be open. -/
inductive Stops (disk : Disk) (depth : Nat) : List Path → Path → List String → Fault → Prop
  | here {opened : List Path} {path : Path} {name : String} {rest : List String} {fault : Fault}
      (blocks : disk.Blocks depth opened path name fault) :
      Stops disk depth opened path (name :: rest) fault
  | step {opened : List Path} {path next : Path} {name : String} {rest : List String}
      {fault : Fault} (step : disk.Step path name next)
      (later : Stops disk depth opened next rest fault) :
      Stops disk depth opened path (name :: rest) fault
  | past {opened : List Path} {inner : Nat} {path next : Path} {name target : String}
      {rest : List String} {fault : Fault} (linked : disk.Linked path name target)
      (inward : disk.Leads inner (walkStart path target) (Path.rawNames target) next)
      (later : Stops disk depth opened next rest fault) :
      Stops disk depth opened path (name :: rest) fault
  | inside {opened : List Path} {path : Path} {name target : String} {rest : List String}
      {fault : Fault} (linked : disk.Linked path name target) (fresh : path.child name ∉ opened)
      (within : Stops disk depth (path.child name :: opened) (walkStart path target)
        (Path.rawNames target) fault) : Stops disk depth opened path (name :: rest) fault

/-- A text with a NUL character is not looked up. -/
theorem lstat_of_nul {text : String} (nul : '\x00' ∈ text.toList) :
    disk.lstat text = .error .nulInPath := by
  simp [lstat, entryAt, nul]

theorem Blocks.not_step (h : disk.Blocks depth opened path name fault) :
    ¬ disk.Step path name next := by
  intro step
  cases h with
  | refused named down told _ =>
    obtain ⟨-, _, found, -⟩ := step.entered named down
    cases told.symm.trans found
  | unprintable named down nul =>
    obtain ⟨-, _, found, -⟩ := step.entered named down
    cases (lstat_of_nul nul).symm.trans found
  | round linked _ _ | barred linked _ _ _ _ | deep linked _ _ => exact step.not_linked linked

/-- A link is stopped only where it is met again or too many links are open. -/
theorem Blocks.again_or_deep (h : disk.Blocks depth opened path name fault)
    (linked : disk.Linked path name target) :
    path.child name ∈ opened ∨ fault = tooManyOpen ∧ path.child name ∉ opened := by
  cases h with
  | refused _ _ told _ => cases told.symm.trans linked.found
  | unprintable _ _ nul => cases (lstat_of_nul nul).symm.trans linked.found
  | round _ again _ | barred _ again _ _ _ => exact .inl again
  | deep _ fresh _ => exact .inr ⟨rfl, fresh⟩

theorem Blocks.unique (h : disk.Blocks depth opened path name fault)
    (h' : disk.Blocks depth opened path name fault') : fault = fault' := by
  cases h with
  | refused named down told _ =>
    cases h' with
    | refused _ _ told' _ => exact Except.error.inj (told.symm.trans told')
    | unprintable _ _ nul => exact Except.error.inj (told.symm.trans (lstat_of_nul nul))
    | round linked _ _ | barred linked _ _ _ _ | deep linked _ _ =>
      cases told.symm.trans linked.found
  | unprintable _ _ nul =>
    have told := @lstat_of_nul disk _ nul
    cases h' with
    | refused _ _ told' _ => exact Except.error.inj (told.symm.trans told')
    | unprintable _ _ _ => rfl
    | round linked _ _ | barred linked _ _ _ _ | deep linked _ _ =>
      cases told.symm.trans linked.found
  | round linked again told =>
    cases h' with
    | refused _ _ told' _ => cases told'.symm.trans linked.found
    | unprintable _ _ nul => cases (lstat_of_nul nul).symm.trans linked.found
    | round _ _ _ => rfl
    | barred _ _ told' _ other =>
      exact absurd (Except.error.inj (told'.symm.trans told)) other
    | deep _ fresh _ => exact absurd again fresh
  | barred linked again told _ other =>
    cases h' with
    | refused _ _ told' _ => cases told'.symm.trans linked.found
    | unprintable _ _ nul => cases (lstat_of_nul nul).symm.trans linked.found
    | round _ _ told' => exact absurd (Except.error.inj (told.symm.trans told')) other
    | barred _ _ told' _ _ => exact Except.error.inj (told.symm.trans told')
    | deep _ fresh _ => exact absurd again fresh
  | deep linked fresh _ =>
    rcases h'.again_or_deep linked with again | ⟨rfl, -⟩
    · exact absurd again fresh
    · rfl

/-- Names that are stopped lead nowhere, unless too many links are open. -/
theorem Stops.not_leads (h : disk.Stops depth opened path names fault)
    (shallow : fault ≠ tooManyOpen) (encloses : disk.Encloses opened path names) :
    ¬ disk.Leads count path names reached := by
  induction h generalizing count reached with
  | here blocks =>
    intro leads
    cases leads with
    | step step _ => exact blocks.not_step step
    | link linked inward onward =>
      rcases blocks.again_or_deep linked with again | ⟨deep, -⟩
      · -- The number of links on the way would be a bound at a link that is met again.
        exact encloses.not_again again descends_leads _ _ ⟨_, .link linked inward onward⟩
      · exact shallow deep
  | step step _ ih => exact fun leads => ih shallow (encloses.step step) (leads.of_step step)
  | past linked inward _ ih =>
    intro leads
    obtain ⟨_, _, _, inward', onward, -⟩ := leads.of_linked linked
    exact ih shallow (encloses.past linked inward) (inward'.unique inward ▸ onward)
  | inside linked _ _ ih =>
    intro leads
    obtain ⟨_, _, _, inward, -⟩ := leads.of_linked linked
    exact ih shallow (encloses.inside linked) inward

/-- **Names are stopped in one way only**, unless too many links are open. -/
theorem Stops.unique (h : disk.Stops depth opened path names fault)
    (h' : disk.Stops depth opened path names fault') (shallow : fault ≠ tooManyOpen)
    (shallow' : fault' ≠ tooManyOpen) (encloses : disk.Encloses opened path names) :
    fault = fault' := by
  induction h with
  | here blocks =>
    cases h' with
    | here blocks' => exact blocks.unique blocks'
    | step step _ => exact absurd step blocks.not_step
    | past linked inward _ =>
      rcases blocks.again_or_deep linked with again | ⟨deep, -⟩
      · exact absurd ⟨_, .link linked inward .done⟩
          (encloses.not_again again descends_leads _ [])
      · exact absurd deep shallow
    | inside linked fresh _ =>
      rcases blocks.again_or_deep linked with again | ⟨deep, -⟩
      · exact absurd again fresh
      · exact absurd deep shallow
  | step step _ ih =>
    cases h' with
    | here blocks => exact absurd step blocks.not_step
    | step step' later => exact ih (step'.unique step ▸ later) shallow (encloses.step step)
    | past linked _ _ | inside linked _ _ => exact absurd linked step.not_linked
  | past linked inward _ ih =>
    cases h' with
    | here blocks =>
      rcases blocks.again_or_deep linked with again | ⟨deep, -⟩
      · exact absurd ⟨_, .link linked inward .done⟩
          (encloses.not_again again descends_leads _ [])
      · exact absurd deep shallow'
    | step step _ => exact absurd linked step.not_linked
    | past linked' inward' later =>
      cases linked'.unique linked
      exact ih (inward'.unique inward ▸ later) shallow (encloses.past linked inward)
    | inside linked' _ within =>
      cases linked'.unique linked
      exact absurd inward (within.not_leads shallow' (encloses.inside linked))
  | inside linked fresh within ih =>
    cases h' with
    | here blocks =>
      rcases blocks.again_or_deep linked with again | ⟨deep, -⟩
      · exact absurd again fresh
      · exact absurd deep shallow'
    | step step _ => exact absurd linked step.not_linked
    | past linked' inward _ =>
      cases linked'.unique linked
      exact absurd inward (within.not_leads shallow (encloses.inside linked))
    | inside linked' _ within' =>
      cases linked'.unique linked
      exact ih within' shallow (encloses.inside linked)

end Disk

end ServerLaunch
