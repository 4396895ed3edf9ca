import ServerLaunch.Proofs.Paths
import ServerLaunch.Proofs.Resolution

/-!
# Rooted paths

A descriptor is carried out by a host, in whatever directory the host likes. A path in it means
the same file there only if it is rooted. What the launcher resolves is rooted: the directory of
the extension, the root of a local workspace and everything below them. What it finds or is
given is passed on as it is: a program found in a relative directory of a search path is
relative, and so is a Node program that is set by a relative path.

## Main definitions

* `Path.Rooted`: a text names the same path from every directory.
* `Workspace.Local.directories`: the directories that a local workspace searches.
* `Extension.Strays`: a descriptor has its command from a relative directory or setting.

**Main statements.** A resolved path is rooted (`Disk.isAbsolute_canonical`). A program that is
found is rooted exactly if its directory on the search path is (`rooted_below`).
-/
namespace ServerLaunch

/-! ## Rooted texts -/

namespace Path

/-- A text names the same path from every directory. -/
def Rooted (text : String) : Prop := (ofText text).isAbsolute = true

instance (text : String) : Decidable (Rooted text) := by
  unfold Rooted
  infer_instance

/-- A text is rooted if it begins with a slash. -/
theorem rooted_iff {text : String} : Rooted text ↔ text.toList.head? = some '/' := by
  simp only [Rooted, isAbsolute, ofText, bne_iff_ne]
  unfold startOf
  split <;> simp_all [List.head?_eq_some_iff]

/-- An absolute path is written with a slash in front. -/
theorem rooted_text {p : Path} (absolute : p.isAbsolute = true) : Rooted p.text := by
  obtain ⟨start, names⟩ := p
  rw [rooted_iff]
  cases start with
  | relative => cases absolute
  | root | doubleRoot => simp [text, Root.text]

/-- Reading a path and writing it again keeps it rooted or relative. -/
theorem rooted_text_ofText {text : String} : Rooted (ofText text).text ↔ Rooted text := by
  rw [Rooted, ofText_text (plain_ofText text), Rooted]

/-- A path seen from an absolute one is rooted. -/
theorem rooted_joinText {p : Path} (absolute : p.isAbsolute = true) (text : String) :
    Rooted (p.joinText text).text := by
  apply rooted_text
  rw [joinText, isAbsolute_join, absolute, Bool.true_or]

/-- Cancelling two dots leaves the start of a path alone. -/
theorem start_up (p : Path) : p.up.start = p.start := by
  unfold up
  split <;> rfl

theorem start_collapse (p : Path) : p.collapse.start = p.start := by
  have steps (names : List String) (q : Path) :
      (names.foldl (fun q name => if name = ".." then q.up else q.child name) q).start =
        q.start := by
    induction names generalizing q with
    | nil => rfl
    | cons name rest ih =>
      rw [List.foldl_cons, ih]
      split
      · exact start_up q
      · rfl
  exact steps p.names _

end Path

/-! ## What is resolved -/

namespace Disk

variable {disk : Disk}

theorem isAbsolute_absolute {path p : Path} (h : disk.absolute path = .ok p) :
    p.isAbsolute = true := by
  unfold absolute at h
  split at h
  · next absolute =>
    cases h
    rw [Path.isAbsolute, Path.start_collapse]
    exact absolute
  · split at h
    · cases h
      rw [Path.isAbsolute, Path.start_collapse]
      exact Path.isAbsolute_join _ _
    · cases h

theorem eq_of_checkLoop {path p : Path} (h : disk.checkLoop path = .ok p) : p = path := by
  unfold checkLoop at h
  split at h
  · exact (Except.ok.inj h).symm
  · split at h
    · cases h
    · exact (Except.ok.inj h).symm
  · cases h

/-- A resolved path is absolute. -/
theorem isAbsolute_canonical {depth : Nat} {strict : Bool} {text : String} {p : Path}
    (h : disk.canonical depth strict text = .ok p) : p.isAbsolute = true := by
  have checked {path : Path} (h : (disk.absolute path).bind disk.checkLoop = .ok p) :
      p.isAbsolute = true := by
    obtain ⟨path', absolute, checked⟩ := bind_eq_ok h
    rw [eq_of_checkLoop checked]
    exact isAbsolute_absolute absolute
  unfold canonical at h
  split at h
  · split at h
    · exact isAbsolute_absolute h
    · exact checked h
  · exact checked h
  · cases h

/-- A program that is found lies in a directory of the search path. -/
theorem search_eq_some {searchPath name path : String} (plain : '/' ∉ name.toList)
    (h : disk.search searchPath name = some path) :
    ∃ directory ∈ Text.split ':' searchPath, path = below directory name := by
  unfold search at h
  rw [if_neg (by simpa using plain)] at h
  split at h
  · cases h
  · obtain ⟨directory, listed, rfl⟩ := List.mem_map.1 (List.mem_of_find?_eq_some h)
    exact ⟨directory, listed, rfl⟩

end Disk

/-- A name in a directory is rooted exactly if the directory is. -/
theorem rooted_below {directory name : String} (plain : ¬ Path.Rooted name) :
    Path.Rooted (below directory name) ↔ Path.Rooted directory := by
  rw [Path.rooted_iff] at plain
  rw [Path.rooted_iff, Path.rooted_iff, below]
  by_cases empty : directory = ""
  · simp [empty, plain]
  · have some_head : directory.toList ≠ [] := by simpa using empty
    obtain ⟨c, rest, chars⟩ := List.exists_cons_of_ne_nil some_head
    split <;> simp [chars]

/-! ## What a launch resolves -/

/-- The directory of the extension is absolute. -/
theorem Machine.isAbsolute_extensionDir {m : Machine} {set? : Option String} {directory : Path}
    (h : m.extensionDir set? = .ok directory) : directory.isAbsolute = true := by
  unfold extensionDir at h
  split at h
  · next set _ =>
    cases resolved : m.disk.canonical m.depths.links false set with
    | error fault => simp [resolved] at h
    | ok path =>
      rw [resolved] at h
      cases h
      exact Disk.isAbsolute_canonical resolved
  · split at h
    · cases h
    · split at h
      · next path resolved =>
        cases h
        -- The parent starts where the path does.
        exact Disk.isAbsolute_canonical (p := path) resolved
      · cases h

namespace Workspace.Local

/-- The directories that a local workspace searches for programs. -/
def directories (home : Local) (m : Machine) : List String :=
  Text.split ':' (home.searchPath?.getD m.searchPath)

variable {home : Local}

/-- The root of a local workspace is absolute. -/
theorem isAbsolute_root {m : Machine} {root : String} {searchPath? : Option String}
    (made : ofText m root searchPath? = .ok home) : home.root.isAbsolute = true := by
  unfold ofText at made
  cases resolved : m.disk.canonical m.depths.links false root with
  | error fault => simp [resolved, Except.map] at made
  | ok path =>
    rw [resolved] at made
    cases made
    exact Disk.isAbsolute_canonical resolved

/-- What lies below the root of a local workspace is rooted. -/
theorem rooted_below_root (absolute : home.root.isAbsolute = true) (text : String) :
    Path.Rooted (home.toWorkspace.rootPath.joinText text).text :=
  Path.rooted_joinText (Path.rooted_text absolute) text

/-- A program that a local workspace finds lies in a directory that it searches. -/
theorem find?_eq_some {m : Machine} {name path : String} (plain : '/' ∉ name.toList)
    (h : home.toWorkspace.find? m name = some path) :
    ∃ directory ∈ home.directories m, path = below directory name := by
  rw [find?, Option.filter_eq_some_iff] at h
  exact Disk.search_eq_some plain h.1

end Workspace.Local

/-! ## Descriptors -/

variable {σ : Type}

/-- The paths among the arguments of a descriptor are rooted: there are none beside the flag, or
they are the bridge script and the server's script. -/
def Descriptor.RootedArguments (d : Descriptor) : Prop :=
  d.arguments = [Server.streamFlag] ∨
    ∃ bridge script, d.arguments = [bridge, script] ∧ Path.Rooted bridge ∧ Path.Rooted script

namespace Extension

variable (e : Extension σ) (home : Workspace.Local)

/-- A descriptor has its command from a relative directory of a search path, or from the
setting of a relative Node program. The server is searched before an installation, Node
after it. -/
inductive Strays (before after : Machine) : Descriptor → Prop
  | server {directory : String} (listed : directory ∈ home.directories before)
      (relative : ¬ Path.Rooted directory)
      (found : home.toWorkspace.find? before Server.id = some (below directory Server.id)) :
      Strays before after (.direct (.ofText (below directory Server.id)))
  | setNode {node : String} {directory script : Path}
      (uses : after.Uses e.settings.nodePath? node) (relative : ¬ Path.Rooted node) :
      Strays before after (.bridged node directory script)
  | hostedNode {place : String} {directory script : Path}
      (unset : ∀ path, ¬ after.Uses e.settings.nodePath? path)
      (listed : place ∈ home.directories after) (relative : ¬ Path.Rooted place)
      (found : home.toWorkspace.find? after nodeName = some (below place nodeName)) :
      Strays before after (.bridged (below place nodeName) directory script)
  | ownNode {place : String} {directory script : Path}
      (unset : ∀ path, ¬ after.Uses e.settings.nodePath? path)
      (unhosted : home.toWorkspace.find? after nodeName = none)
      (listed : place ∈ Text.split ':' after.searchPath) (relative : ¬ Path.Rooted place)
      (found : after.program? nodeName = some (below place nodeName)) :
      Strays before after (.bridged (below place nodeName) directory script)

variable {e home} {before after : Machine} {d : Descriptor}

/-- A stray command is relative. -/
theorem Strays.not_rooted (strays : e.Strays home before after d) :
    ¬ Path.Rooted d.command := by
  cases strays with
  | server _ relative _ =>
    change ¬ Path.Rooted (Path.text _)
    rwa [Path.rooted_text_ofText, rooted_below (by decide)]
  | setNode _ relative => exact relative
  | hostedNode _ _ relative _ | ownNode _ _ _ relative _ =>
    change ¬ Path.Rooted (below _ _)
    rwa [rooted_below (by decide)]

/-- A Node program that is found is rooted, or the descriptor strays. -/
theorem rooted_or_strays_of_findsNode {node : String} {directory script : Path}
    (found : after.FindsNode home.toWorkspace e.settings.nodePath? (.ok node)) :
    Path.Rooted node ∨ e.Strays home before after (.bridged node directory script) := by
  by_cases rooted : Path.Rooted node
  · exact .inl rooted
  · refine .inr ?_
    cases found with
    | set uses => exact .setNode uses rooted
    | hosted unset found =>
      obtain ⟨place, listed, rfl⟩ := Workspace.Local.find?_eq_some (by decide) found
      exact .hostedNode unset listed (by rwa [rooted_below (by decide)] at rooted) found
    | searched unset unhosted found =>
      obtain ⟨place, listed, rfl⟩ := Disk.search_eq_some (by decide) found
      exact .ownNode unset unhosted listed (by rwa [rooted_below (by decide)] at rooted) found

/-- A server that the host finds is rooted, or the descriptor strays. -/
theorem rooted_or_strays_of_find? {path : String}
    (found : home.toWorkspace.find? before Server.id = some path) :
    Path.Rooted (Path.ofText path).text ∨
      e.Strays home before after (.direct (.ofText path)) := by
  by_cases rooted : Path.Rooted path
  · exact .inl (Path.rooted_text_ofText.2 rooted)
  · obtain ⟨place, listed, rfl⟩ := Workspace.Local.find?_eq_some (by decide) found
    exact .inr (.server listed (by rwa [rooted_below (by decide)] at rooted) found)

/-- A rooted script is started through the bridge with rooted arguments, by a rooted program
unless the descriptor strays. -/
theorem rooted_of_bridgeOutcome {script : Path} (rooted : Path.Rooted script.text)
    (returned : e.bridgeOutcome home.toWorkspace script after = .ok d) :
    (Path.Rooted d.command ∨ e.Strays home before after d) ∧ d.RootedArguments := by
  cases (e.bridges_iff _ _ _ _).2 returned with
  | bridged placed found =>
    have bridge := Path.rooted_joinText (Machine.isAbsolute_extensionDir placed)
      Server.bridgeScript
    exact ⟨rooted_or_strays_of_findsNode found, .inr ⟨_, _, rfl, bridge, rooted⟩⟩

/-- **Where the paths of a descriptor lead.** A descriptor for a local workspace has rooted
arguments, whatever the settings, the files and the source. Its command is rooted too, unless
it comes from a relative directory of a search path or from the setting of a relative Node
program; then it is relative. -/
theorem command_rooted_iff {m : Machine} {root : String} {searchPath? : Option String}
    (made : Workspace.Local.ofText m root searchPath? = .ok home) (s : Session σ)
    (returned : ((e.command Server.id home.toWorkspace).run s).outcome = .ok d) :
    let after := ((e.command Server.id home.toWorkspace).run s).final.world.toMachine
    (Path.Rooted d.command ↔ ¬ e.Strays home s.world.toMachine after d) ∧ d.RootedArguments := by
  intro after
  have inside := Workspace.Local.rooted_below_root (Workspace.Local.isAbsolute_root made)
  suffices (Path.Rooted d.command ∨ e.Strays home s.world.toMachine after d) ∧
      d.RootedArguments from
    ⟨⟨fun rooted strays => strays.not_rooted rooted, this.1.resolve_right⟩, this.2⟩
  have h := e.launched_run Server.id home.toWorkspace s
  unfold after
  generalize (e.command Server.id home.toWorkspace).run s = r at h returned ⊢
  cases h with
  | unknown _ | unseen _ _ | notFound _ _ _ | notProvisioned _ _ _ _ => cases returned
  | direct _ located =>
    cases returned
    refine ⟨?_, .inl rfl⟩
    rcases Workspace.locate_eq_some located with ⟨path, found, same⟩ | ⟨_, _, offered⟩
    · cases same
      exact rooted_or_strays_of_find? found
    · obtain ⟨_, ⟨rfl, _⟩ | ⟨_, runs⟩⟩ := Workspace.locateLocal_eq_some offered
      · exact .inl (inside Server.localProgram)
      · cases runs
  | bridged _ located =>
    rcases Workspace.locate_eq_some located with ⟨path, _, same⟩ | ⟨_, _, offered⟩
    · cases same
    · obtain ⟨_, ⟨rfl, _⟩ | ⟨rfl, _⟩⟩ := Workspace.locateLocal_eq_some offered
      · exact rooted_of_bridgeOutcome (inside Server.localProgram) returned
      · exact rooted_of_bridgeOutcome (inside Server.entryScript) returned
  | provisioned _ _ _ ensured =>
    cases ensured.script_eq
    exact rooted_of_bridgeOutcome (inside Server.entryScript) returned

end Extension

/-! ### Relative commands -/

namespace Astray

/-- A local workspace with a relative search path. -/
def home : Workspace.Local := ⟨⟨.root, ["p"]⟩, some "tools"⟩

/-- A machine with a workspace, and with a server in a directory below the working directory. -/
def machine : Machine :=
  { Stale.machine with
    disk := (Stale.machine.disk.put ["tools"] .directory).put [Server.id, "tools"]
      (.file [] 0o755) }

def session : Session Unit := ⟨⟨machine, ()⟩, false⟩

/-- What the host finds is started as it is found. -/
theorem command_eq : ((Stale.extension.command Server.id home.toWorkspace).run session).outcome =
    .ok (.direct (.ofText "tools/intelephense")) := by
  have found : home.toWorkspace.find? machine Server.id = some "tools/intelephense" := by
    decide +kernel
  have launched := Extension.Launched.direct (e := Stale.extension) (s := session) rfl
    (Workspace.locate_of_find? found _)
  rw [launched.run_eq]

/-- The same extension, with the Node program that is set. -/
def extension (node : String) : Extension Unit :=
  { Stale.extension with settings := { autoInstall := false, nodePath? := some node } }

/-- The same directory, searched as the process is. -/
def plain : Workspace.Local := ⟨⟨.root, ["p"]⟩, none⟩

/-- The descriptor of the script that the directory holds, run by the set program. -/
def descriptor : Descriptor := .bridged "e" (.ofText "/") plain.toWorkspace.entryScript

/-- A Node program that is set is used as it is set. -/
theorem command_eq_bridged :
    (((extension "e").command Server.id plain.toWorkspace).run Stale.session).outcome =
      .ok descriptor := by
  have absent : plain.toWorkspace.find? Stale.session.world.toMachine Server.id = none := by
    decide +kernel
  have offers : plain.toWorkspace.Offers Stale.machine.disk
      (.ok (some ⟨plain.toWorkspace.entryScript, false⟩)) := .script rfl rfl
  have node : Stale.machine.FindsNode plain.toWorkspace (some "e") (.ok "e") :=
    .set ⟨rfl, by decide, rfl⟩
  have placed : Stale.machine.extensionDir none = .ok (.ofText "/") := rfl
  have bridges : (extension "e").Bridges plain.toWorkspace Stale.machine
      plain.toWorkspace.entryScript (.ok descriptor) := .bridged placed node
  have resolves : (extension "e").Resolves plain.toWorkspace Stale.session
      ⟨.ok descriptor, Stale.session, []⟩ := .bridged rfl offers bridges
  rw [resolves.run_eq absent]

end Astray

/-- A Node program that is set by a relative path leads the descriptor astray, and only the
command of it. -/
theorem Extension.astray_of_relative_node :
    (∃ after, (Astray.extension "e").Strays Astray.plain Stale.machine after
        Astray.descriptor) ∧
      Astray.descriptor.RootedArguments := by
  have made : Workspace.Local.ofText Stale.machine "/p" none = .ok Astray.plain := rfl
  obtain ⟨rooted_iff, arguments⟩ :=
    command_rooted_iff made Stale.session Astray.command_eq_bridged
  have relative : ¬ Path.Rooted Astray.descriptor.command := by decide
  exact ⟨⟨_, Classical.not_not.1 fun sober => relative (rooted_iff.2 sober)⟩, arguments⟩

/-- A server in a relative directory of the search path is started by a relative path. -/
theorem Extension.relative_command :
    ¬ ∀ (e : Extension Unit) (m : Machine) (root : String) (searchPath? : Option String)
        (home : Workspace.Local) (s : Session Unit) (d : Descriptor),
      Workspace.Local.ofText m root searchPath? = .ok home →
      ((e.command Server.id home.toWorkspace).run s).outcome = .ok d →
      Path.Rooted d.command ∧ d.RootedArguments := by
  intro claim
  have rooted := (claim Stale.extension Astray.machine "/p" (some "tools") Astray.home
    Astray.session _ rfl Astray.command_eq).1
  exact absurd rooted (by decide)

end ServerLaunch
