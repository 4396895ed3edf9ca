import ServerLaunch.Proofs.Launching
import ServerLaunch.Proofs.Locating
import ServerLaunch.Proofs.Paths

/-!
# Whose files are found

A search of a workspace is asked for a server by its identity. The host is asked for a program of
that name, but the files of the workspace are looked for at fixed places, those of the one server
that is known. So what is found among them belongs to that server, whichever one was asked for. It
belongs to the one that was asked for only if its identity is another way to write the same places.

## Main definitions

* `Workspace.programOf`, `Workspace.scriptOf`: where a workspace keeps the files of a server.
* `Workspace.Belongs`: a path is one of the two.

**Main statements.** Without a program of the host, a search finds nothing exactly where the known
server has no file, and what it finds is that server's (`Workspace.located_belongs`).
-/
namespace ServerLaunch

/-- A path that starts nowhere is gone on with from another one. -/
theorem Path.joinText_of_relative (p : Path) {text : String}
    (relative : (ofText text).start = .relative) :
    p.joinText text = { p with names := p.names ++ (ofText text).names } := by
  simp [joinText, join, isAbsolute, relative]

namespace Workspace

variable (workspace : Workspace) (server : String)

/-! ## The files of a server -/

/-- The program of a server that a workspace provides. -/
def programOf : Path := workspace.rootPath.joinText ("node_modules/.bin/" ++ server)

/-- The entry script of a server that is installed in a workspace. -/
def scriptOf : Path :=
  workspace.rootPath.joinText ("node_modules/" ++ server ++ "/lib/" ++ server ++ ".js")

/-- The paths at which a workspace keeps the files of a server. -/
def Belongs (path : Path) : Prop :=
  path = workspace.programOf server ∨ path = workspace.scriptOf server

theorem localProgram_eq : workspace.localProgram = workspace.programOf Server.id := rfl

theorem entryScript_eq : workspace.entryScript = workspace.scriptOf Server.id := rfl

theorem programOf_eq :
    workspace.programOf server = { workspace.rootPath with
      names := workspace.rootPath.names ++
        ("node_modules" :: ".bin" :: (Path.ofText server).names) } := by
  have text : "node_modules/.bin/" ++ server = "node_modules/.bin" ++ "/" ++ server := by
    simp
  have front : (Path.ofText "node_modules/.bin").names = ["node_modules", ".bin"] := by decide
  have relative : (Path.ofText ("node_modules/.bin/" ++ server)).start = .relative := by
    simp [Path.ofText, Path.startOf]
  rw [programOf, Path.joinText_of_relative _ relative, text, Path.names_ofText_append_slash, front]
  rfl

theorem scriptOf_eq :
    workspace.scriptOf server = { workspace.rootPath with
      names := workspace.rootPath.names ++
        ("node_modules" :: ((Path.ofText server).names ++
          "lib" :: (Path.ofText (server ++ ".js")).names)) } := by
  have text : "node_modules/" ++ server ++ "/lib/" ++ server ++ ".js" =
      "node_modules" ++ "/" ++ server ++ "/" ++ "lib" ++ "/" ++ (server ++ ".js") := by
    simp [← String.toList_inj]
  have front : (Path.ofText "node_modules").names = ["node_modules"] := by decide
  have middle : (Path.ofText "lib").names = ["lib"] := by decide
  have relative : (Path.ofText ("node_modules/" ++ server ++ "/lib/" ++ server ++ ".js")).start =
      .relative := by
    simp [Path.ofText, Path.startOf]
  rw [scriptOf, Path.joinText_of_relative _ relative, text]
  simp only [Path.names_ofText_append_slash, front, middle, List.append_assoc, List.cons_append,
    List.nil_append]

/-! ## Identities that share their files -/

theorem isName_id : Path.IsName Server.id := ⟨by decide, by decide⟩

theorem isName_id_js : Path.IsName (Server.id ++ ".js") := ⟨by decide, by decide⟩

/-- The program of the known server is no entry script. -/
theorem programOf_id_ne_scriptOf : workspace.programOf Server.id ≠ workspace.scriptOf server := by
  intro same
  rw [programOf_eq, scriptOf_eq, isName_id.names_ofText] at same
  have tail : [".bin", Server.id] = (Path.ofText server).names ++
      "lib" :: (Path.ofText (server ++ ".js")).names := by simpa using same
  have listed : "lib" ∈ [".bin", Server.id] := by simp [tail]
  exact absurd listed (by decide)

/-- The entry script of the known server is no program. -/
theorem scriptOf_id_ne_programOf : workspace.scriptOf Server.id ≠ workspace.programOf server := by
  intro same
  rw [programOf_eq, scriptOf_eq, isName_id.names_ofText] at same
  have tail : Server.id :: "lib" :: (Path.ofText (Server.id ++ ".js")).names =
      ".bin" :: (Path.ofText server).names := by simpa using same
  exact absurd (List.cons.inj tail).1 (by decide)

/-- Names around a directory of libraries are told apart by it. -/
theorem append_lib_eq_iff {front back : List String} :
    front ++ "lib" :: back = [Server.id, "lib", Server.id ++ ".js"] ↔
      front = [Server.id] ∧ back = [Server.id ++ ".js"] := by
  refine ⟨fun same => ?_, by rintro ⟨rfl, rfl⟩; rfl⟩
  rcases front with _ | ⟨first, _ | ⟨second, front⟩⟩
  · exact absurd (List.cons.inj same).1 (by decide)
  · simpa using same
  · -- With two names in front, the directory would be the last name.
    have last : front ++ "lib" :: back = [Server.id ++ ".js"] := by
      simpa using (List.cons.inj (List.cons.inj same).2).2
    have listed : "lib" ∈ [Server.id ++ ".js"] := by simp [← last]
    exact absurd listed (by decide)

/-- The program of the known server is another one's only if that one's identity is read as the
same name. -/
theorem belongs_programOf_id_iff :
    workspace.Belongs server (workspace.programOf Server.id) ↔
      (Path.ofText server).names = [Server.id] := by
  rw [Belongs, or_iff_left (workspace.programOf_id_ne_scriptOf server), programOf_eq,
    programOf_eq, isName_id.names_ofText]
  simp [eq_comm]

/-- The entry script of the known server is another one's only if both places where that one's
identity stands are read as the same names. -/
theorem belongs_scriptOf_id_iff :
    workspace.Belongs server (workspace.scriptOf Server.id) ↔
      (Path.ofText server).names = [Server.id] ∧
        (Path.ofText (server ++ ".js")).names = [Server.id ++ ".js"] := by
  rw [Belongs, or_iff_right (workspace.scriptOf_id_ne_programOf server), scriptOf_eq,
    scriptOf_eq, isName_id.names_ofText, isName_id_js.names_ofText, ← append_lib_eq_iff]
  simp [eq_comm]

variable {workspace}

/-- Which files of the known server are another one's as well. -/
theorem belongs_iff_of_belongs_id {path : Path} (own : workspace.Belongs Server.id path) :
    workspace.Belongs server path ↔
      (Path.ofText server).names = [Server.id] ∧
        (path = workspace.scriptOf Server.id →
          (Path.ofText (server ++ ".js")).names = [Server.id ++ ".js"]) := by
  rcases own with rfl | rfl
  · have other : workspace.programOf Server.id ≠ workspace.scriptOf Server.id :=
      workspace.programOf_id_ne_scriptOf Server.id
    simp [belongs_programOf_id_iff, other]
  · simp [belongs_scriptOf_id_iff]

/-! ## What is found -/

variable {server} {m : Machine}

/-- Without a program of the host a search finds nothing exactly where the known server has no
file. -/
theorem locate_eq_none_iff (absent : workspace.find? m server = none) :
    workspace.locate m server true = .ok none ↔
      m.disk.isFile (workspace.programOf Server.id) = .ok false ∧
        m.disk.isFile (workspace.scriptOf Server.id) = .ok false := by
  rw [locate_of_searchLocal absent, ← offers_iff, ← localProgram_eq, ← entryScript_eq]
  refine ⟨fun offers => ?_, fun ⟨noProgram, noScript⟩ => .nothing noProgram noScript⟩
  cases offers with
  | nothing noProgram noScript => exact ⟨noProgram, noScript⟩

/-- **Whose files are found.** Without a program of the host for the server that is asked for, a
search of the workspace finds nothing exactly where the known server has neither its program nor
its entry script. What it finds is one of these two files, whichever server was asked for. It is a
file of the server that was asked for only if the identity of that server is read as the one of the
known server where it stands in the path; for an identity that is a plain name, only if the known
server was asked for. -/
theorem located_belongs (absent : workspace.find? m server = none) :
    (workspace.locate m server true = .ok none ↔
      m.disk.isFile (workspace.programOf Server.id) = .ok false ∧
        m.disk.isFile (workspace.scriptOf Server.id) = .ok false) ∧
    ∀ located, workspace.locate m server true = .ok (some located) →
      workspace.Belongs Server.id located.path ∧ m.disk.isFile located.path = .ok true ∧
      (workspace.Belongs server located.path ↔
        (Path.ofText server).names = [Server.id] ∧
          (located.path = workspace.scriptOf Server.id →
            (Path.ofText (server ++ ".js")).names = [Server.id ++ ".js"])) ∧
      (Path.IsName server → (workspace.Belongs server located.path ↔ server = Server.id)) := by
  refine ⟨locate_eq_none_iff absent, fun located h => ?_⟩
  rw [locate_of_searchLocal absent] at h
  obtain ⟨file, place⟩ := locateLocal_eq_some h
  rw [localProgram_eq, entryScript_eq] at place
  have own : workspace.Belongs Server.id located.path := place.imp And.left And.left
  have shared := belongs_iff_of_belongs_id server own
  refine ⟨own, file, shared, fun named => ⟨fun theirs => ?_, fun same => same ▸ own⟩⟩
  have read := (shared.1 theirs).1
  rw [named.names_ofText] at read
  exact (List.cons.inj read).1

/-! ### A server that is not the known one -/

theorem absent_phpactor : Stale.workspace.find? Stale.machine "phpactor" = none := by decide

/-- Where the known server is installed, it is found for any other one. -/
theorem locate_phpactor :
    Stale.workspace.locate Stale.machine "phpactor" true =
      .ok (some ⟨Stale.workspace.entryScript, false⟩) := by
  rw [locate_of_searchLocal absent_phpactor, ← offers_iff]
  exact .script rfl rfl

/-- What is found for a server of another name is none of its files. -/
theorem located_belongs_phpactor :
    Stale.workspace.find? Stale.machine "phpactor" = none ∧
      ¬ Stale.workspace.Belongs "phpactor" Stale.workspace.entryScript := by
  obtain ⟨-, found⟩ := located_belongs absent_phpactor
  obtain ⟨-, -, -, named⟩ := found _ locate_phpactor
  refine ⟨absent_phpactor, fun theirs => ?_⟩
  exact absurd ((named ⟨by decide, by decide⟩).1 theirs) (by decide)

/-- What is found need not belong to the server that was asked for. -/
theorem located_stranger :
    ¬ ∀ (workspace : Workspace) (m : Machine) (server : String) (located : Located),
        workspace.find? m server = none →
        workspace.locate m server true = .ok (some located) →
        workspace.Belongs server located.path := by
  intro claim
  have theirs := claim Stale.workspace Stale.machine "phpactor" _ absent_phpactor locate_phpactor
  rw [entryScript_eq, belongs_scriptOf_id_iff] at theirs
  exact absurd theirs.1 (by decide)

end Workspace

end ServerLaunch
