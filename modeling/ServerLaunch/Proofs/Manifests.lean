import ServerLaunch.Proofs.Documents
import ServerLaunch.Proofs.Probing
import ServerLaunch.Proofs.Querying

/-!
# The version of an installed package

A package source is asked for two versions: the one that the registry has and the one that the
manifest of an installed package states. Both readers are given octets, and an update ends only if
they read the same from them. They differ in how they treat the text: the registry's puts a
replacement character for what is damaged and keeps the line breaks, the manifest's gives up on
what is damaged and unifies them. On well-formed octets this makes no difference.

A manifest that cannot be read states no version. Two failures are not taken for that: its path is
overlong, which the test for the file passes on, or its document is nested too deeply.

## Main definitions

* `Manifest.Reads`: what the octets of a manifest say.
* `Manifest.Found`: what a manifest says, be it there or not.
* `Manifest.Tells`, `Manifest.Escapes`: a manifest states a version; it ends in a fault.

**Main statements.** Asking for an installed version ends with a fault exactly if the manifest
escapes (`Npm.installed_given_iff`), and the two readers agree (`Npm.readers_agree`).
-/
namespace ServerLaunch

namespace Manifest

/-! ## The octets of a manifest -/

/-- What the octets of a manifest say, read as a document nested at most `depth` deep. -/
inductive Reads (depth : Nat) (octets : List UInt8) : Except Fault (Option Version) → Prop
  | damaged (undecoded : Text.Utf8.decode? octets = none) : Reads depth octets (.ok none)
  | refused {text : List Char} {e : Json.ReadError} (decoded : Text.Utf8.decode? octets = some text)
      (unread : Json.parse depth text = .error e)
      (shallow : ∀ container, e ≠ .tooDeep container) : Reads depth octets (.ok none)
  | nested {text : List Char} {container : Json.Container}
      (decoded : Text.Utf8.decode? octets = some text)
      (deep : Json.parse depth text = .error (.tooDeep container)) :
      Reads depth octets (.error (.tooDeep container.tooDeepReport))
  | silent {text : List Char} {document : Json} (decoded : Text.Utf8.decode? octets = some text)
      (read : Json.parse depth text = .ok document)
      (unstated : ∀ version, ¬ document.States version) : Reads depth octets (.ok none)
  | stated {text : List Char} {document : Json} {version : Version}
      (decoded : Text.Utf8.decode? octets = some text)
      (read : Json.parse depth text = .ok document) (states : document.States version) :
      Reads depth octets (.ok (some version))

variable {depth : Nat} {octets : List UInt8} {outcome : Except Fault (Option Version)}

/-- The line breaks of a manifest do not matter. -/
theorem version?_of_decoded {text : List Char} (decoded : Text.Utf8.decode? octets = some text) :
    version? depth octets =
      match Json.parse depth text with
      | .ok document => .ok document.version?
      | .error (.tooDeep container) => .error (.tooDeep container.tooDeepReport)
      | .error _ => .ok none := by
  have alike := Json.parse_unifyNewlines depth text
  rw [version?, decoded]
  simp only [Json.ofText]
  generalize Json.parse depth text = kept at alike
  generalize Json.parse depth (Text.unifyNewlines text) = unified at alike
  cases alike with
  | ok same => rw [same]; rfl
  | error alike => cases alike <;> rfl

theorem Reads.version?_eq (h : Reads depth octets outcome) : version? depth octets = outcome := by
  cases h with
  | damaged undecoded => rw [version?, undecoded]
  | @refused _ e decoded unread shallow =>
    rw [version?_of_decoded decoded, unread]
    cases e with
    | tooDeep container => exact absurd rfl (shallow container)
    | flawed | integerTooLong => rfl
  | nested decoded deep => rw [version?_of_decoded decoded, deep]
  | @silent _ document decoded read unstated =>
    have none : document.version? = none := by
      simpa [Option.eq_none_iff_forall_ne_some, Json.version?_eq_some_iff] using unstated
    rw [version?_of_decoded decoded, read]
    exact congrArg Except.ok none
  | stated decoded read states =>
    rw [version?_of_decoded decoded, read]
    exact congrArg Except.ok (Json.version?_eq_some_iff.2 states)

/-- The rules are what the octets say. -/
theorem reads_iff (depth : Nat) (octets : List UInt8) (outcome : Except Fault (Option Version)) :
    Reads depth octets outcome ↔ version? depth octets = outcome := by
  apply iff_eq_of_covered Reads.version?_eq
  cases decoded : Text.Utf8.decode? octets with
  | none => exact ⟨_, .damaged decoded⟩
  | some text =>
    cases read : Json.parse depth text with
    | ok document =>
      by_cases stated : ∃ version, document.States version
      · obtain ⟨version, states⟩ := stated
        exact ⟨_, .stated decoded read states⟩
      · exact ⟨_, .silent decoded read (by simpa using stated)⟩
    | error e =>
      cases e with
      | tooDeep container => exact ⟨_, .nested decoded read⟩
      | flawed | integerTooLong => exact ⟨_, .refused decoded read nofun⟩

/-- A version is stated by the document that the octets are, line breaks or not. -/
theorem reads_version_iff {text : List Char} (decoded : Text.Utf8.decode? octets = some text)
    {version : Version} :
    Reads depth octets (.ok (some version)) ↔
      ∃ document, Json.parse depth text = .ok document ∧ document.States version := by
  constructor
  · intro reads
    cases reads with
    | stated decoded' read states =>
      cases decoded.symm.trans decoded'
      exact ⟨_, read, states⟩
  · rintro ⟨document, read, states⟩
    exact .stated decoded read states

/-! ## The file of a manifest -/

/-- What is said by the manifest at a path, be it there or not. -/
inductive Found (m : Machine) (path : Path) : Except Fault (Option Version) → Prop
  | overlong (tooLong : m.disk.Overlong path.text) :
      Found m path (.error (.onPath .nameTooLong path.text))
  | missing (absent : m.disk.isFile path = .ok false) : Found m path (.ok none)
  | locked {content : List UInt8} {mode : Nat}
      (file : m.disk.stat path.text = .ok (.file content mode)) (unreadable : mode &&& 0o400 = 0) :
      Found m path (.ok none)
  | opened {content : List UInt8} {mode : Nat} {outcome : Except Fault (Option Version)}
      (file : m.disk.stat path.text = .ok (.file content mode)) (readable : mode &&& 0o400 ≠ 0)
      (reads : Reads m.depths.documents content outcome) : Found m path outcome

variable {m : Machine} {package directory : String}

theorem Found.installed?_eq (h : Found m (path package directory) outcome) :
    installed? m package directory = outcome := by
  cases h with
  | overlong tooLong =>
    have stopped : m.disk.isFile (path package directory) = .error _ :=
      Disk.answer_eq_error_iff.2 ⟨tooLong, rfl⟩
    rw [installed?, stopped]
    rfl
  | missing absent =>
    rw [installed?, absent]
    rfl
  | locked file unreadable =>
    rw [installed?, Disk.isFile_of_stat file]
    simp [Disk.content?, file, Entry.content?, unreadable, bind, Except.bind, pure, Except.pure]
  | opened file readable reads =>
    rw [installed?, Disk.isFile_of_stat file]
    simp [Disk.content?, file, Entry.content?, readable, reads.version?_eq, bind, Except.bind]

/-- The rules are what a package source finds. -/
theorem found_iff (m : Machine) (package directory : String)
    (outcome : Except Fault (Option Version)) :
    Found m (path package directory) outcome ↔
      installed? m package directory = outcome := by
  apply iff_eq_of_covered Found.installed?_eq
  rcases tested : m.disk.isFile (path package directory) with fault | _ | _
  · obtain ⟨tooLong, rfl⟩ := Disk.answer_eq_error_iff.1 tested
    exact ⟨_, .overlong tooLong⟩
  · exact ⟨_, .missing tested⟩
  · obtain ⟨content, mode, file⟩ := Disk.stat_of_isFile tested
    by_cases readable : mode &&& 0o400 = 0
    · exact ⟨_, .locked file readable⟩
    · exact ⟨_, .opened file readable ((reads_iff _ content _).2 rfl)⟩

/-- The manifest at a path states a version: it is a file that may be read, and its octets are the
text of a document that states the version. -/
def Tells (m : Machine) (path : Path) (version : Version) : Prop :=
  ∃ content mode text document, m.disk.stat path.text = .ok (.file content mode) ∧
    mode &&& 0o400 ≠ 0 ∧ Text.Utf8.decode? content = some text ∧
    Json.parse m.depths.documents text = .ok document ∧ document.States version

/-- What the manifest at a path meets leaves its reader as a fault: the path is overlong, or the
text of the file is nested too deeply for its reader. -/
inductive Escapes (m : Machine) (path : Path) : Fault → Prop
  | overlong (tooLong : m.disk.Overlong path.text) :
      Escapes m path (.onPath .nameTooLong path.text)
  | nested {content : List UInt8} {mode : Nat} {text : List Char} {container : Json.Container}
      (file : m.disk.stat path.text = .ok (.file content mode)) (readable : mode &&& 0o400 ≠ 0)
      (decoded : Text.Utf8.decode? content = some text)
      (deep : Json.parse m.depths.documents text = .error (.tooDeep container)) :
      Escapes m path (.tooDeep container.tooDeepReport)

variable {path : Path}

theorem found_version_iff {version : Version} :
    Found m path (.ok (some version)) ↔ Tells m path version := by
  constructor
  · intro found
    cases found with
    | opened file readable reads =>
      cases reads with
      | stated decoded read states => exact ⟨_, _, _, _, file, readable, decoded, read, states⟩
  · rintro ⟨_, _, _, _, file, readable, decoded, read, states⟩
    exact .opened file readable (.stated decoded read states)

theorem found_fault_iff {fault : Fault} :
    Found m path (.error fault) ↔ Escapes m path fault := by
  constructor
  · intro found
    cases found with
    | overlong tooLong => exact .overlong tooLong
    | opened file readable reads =>
      cases reads with
      | nested decoded deep => exact .nested file readable decoded deep
  · rintro (tooLong | ⟨file, readable, decoded, deep⟩)
    · exact .overlong tooLong
    · exact .opened file readable (.nested decoded deep)

end Manifest

/-- The body of an answer is made of these octets, and its reader takes it for UTF-8: if they are
well-formed, it gives what a document nested at most `depth` deep gives. -/
def Response.Carries (r : Response) (depth : Nat) (octets : List UInt8) : Prop :=
  ∀ text, Text.Utf8.decode? octets = some text → r.document = Json.ofText depth text

/-- A body that is declared to be UTF-8 is taken for it. -/
theorem Response.carries_declaredUtf8 (depth : Nat) (status : Int) (reason? : Option String)
    (octets : List UInt8) : (declaredUtf8 depth status reason? octets).Carries depth octets := by
  intro text decoded
  rw [declaredUtf8, Text.Utf8.decodeLossy_eq decoded]

namespace Npm

variable {σ : Type} (registry : Registry) (npm : Npm) (package directory : String)

/-! ## What is installed -/

theorem run_installed? (w : World σ) :
    ((source registry npm).installed? package directory).run w =
      ⟨(Manifest.installed? w.toMachine package directory).mapError .fault, w, []⟩ := rfl

/-- **How asking for an installed version ends.** It changes nothing. It gives a version exactly if
the manifest states it, and it ends with a fault exactly if the manifest escapes, its path being
overlong or its document nested too deeply. In every other case, whatever keeps the manifest from
being read or from stating a version, it gives none. Every directory of these disks may be searched;
one that may not be would be a further case, as the test for the file passes that failure on too. -/
theorem installed_given_iff (w : World σ) :
    let path := Manifest.path package directory
    let asked := ((source registry npm).installed? package directory).run w
    asked.final = w ∧ asked.events = [] ∧
      ((∃ found?, asked.outcome = .ok found?) ↔
        ∀ fault, ¬ Manifest.Escapes w.toMachine path fault) ∧
      (∀ fault, asked.outcome = .error (.fault fault) ↔ Manifest.Escapes w.toMachine path fault) ∧
      (∀ version, asked.outcome = .ok (some version) ↔ Manifest.Tells w.toMachine path version) ∧
      (asked.outcome = .ok none ↔ (∀ fault, ¬ Manifest.Escapes w.toMachine path fault) ∧
        ∀ version, ¬ Manifest.Tells w.toMachine path version) := by
  intro path asked
  simp only [asked, run_installed?, path, ← Manifest.found_fault_iff, ← Manifest.found_version_iff,
    Manifest.found_iff w.toMachine]
  rcases Manifest.installed? w.toMachine package directory with fault | _ | version <;> simp

/-! ### A manifest behind a name that is too long -/

namespace Astray

/-- A name of so many letters. -/
def letters (count : Nat) : String := String.ofList (List.replicate count 'a')

/-- A machine on which the manifest of the server is a link to a name that is too long. -/
def world : World Unit :=
  ⟨{ Stale.machine with
      disk := Stale.machine.disk.put ["package.json", "intelephense", "node_modules", "p"]
        (.link (letters (nameLimit + 1))) }, ()⟩

theorem utf8ByteSize_letters (count : Nat) : (letters count).utf8ByteSize = count := by
  induction count with
  | zero => rfl
  | succ count ih =>
    have split : letters (count + 1) = "a" ++ letters count := by
      rw [letters, List.replicate_succ, String.ofList_cons]
      rfl
    rw [split, String.utf8ByteSize_append, ih]
    exact Nat.add_comm 1 count

theorem rawNames_letters (count : Nat) : Path.rawNames (letters count) = [letters count] := by
  have plain : '/' ∉ (letters count).toList := by simp [letters]
  rw [Path.rawNames, Text.split, Text.pieces_of_not_mem plain, List.map_singleton,
    String.ofList_toList]

theorem overlong_world : world.disk.Overlong (Manifest.path Server.package "/p").text := by
  have text : (Manifest.path Server.package "/p").text =
      "/p/node_modules/intelephense/package.json" := by decide +kernel
  have names : Path.rawNames "/p/node_modules/intelephense/package.json" =
      ["", "p", "node_modules", "intelephense", "package.json"] := by decide +kernel
  have directory {location : Location}
      (other : location ≠ ["package.json", "intelephense", "node_modules", "p"])
      (found : Stale.machine.disk.tree.get? location = some .directory) :
      world.disk.tree.get? location = some .directory :=
    (FileTree.get?_put_of_ne _ _ other).trans found
  rw [text]
  refine ⟨by decide, .inr ?_⟩
  rw [names]
  refine .void rfl ?_
  refine .enter ⟨rfl, by decide, rfl, by decide⟩ (directory (by decide) (by decide)) ?_
  refine .enter ⟨rfl, by decide, rfl, by decide⟩ (directory (by decide) (by decide)) ?_
  refine .enter ⟨rfl, by decide, rfl, by decide⟩ (directory (by decide) (by decide)) ?_
  refine .follow ⟨rfl, by decide, rfl, by decide⟩
    (FileTree.get?_put_self _ _ (List.cons_ne_nil _ _)) (.inr rfl) ?_
  rw [rawNames_letters]
  have other (name : String) (short : name.utf8ByteSize < 255) :
      letters (nameLimit + 1) ≠ name := by
    rintro rfl
    rw [utf8ByteSize_letters] at short
    exact absurd short (by decide)
  refine .long ?_ (other _ (by decide)) ?_ ?_
  · simp [Path.isVoid, other "" (by decide), other "." (by decide)]
  · unfold FileTree.linkStart
    split <;> rfl
  · rw [utf8ByteSize_letters]
    exact Nat.lt_succ_self _

end Astray

/-- A manifest that cannot be reached need not be taken for one that is missing. -/
theorem installed_unreachable :
    ¬ ∀ (registry : Registry) (npm : Npm) (package directory : String) (w : World Unit),
        ∃ found?, (((source registry npm).installed? package directory).run w).outcome =
          .ok found? := by
  intro claim
  obtain ⟨found?, given⟩ := claim Registry.Asked.standard {} Server.package "/p" Astray.world
  rw [run_installed?, (Manifest.Found.overlong Astray.overlong_world).installed?_eq] at given
  cases given

/-! ## Two readers -/

variable {registry npm package directory} {r : Response} {octets : List UInt8} {text : List Char}
  {mode : Nat}

/-- A query that is answered with well-formed octets gives the version that their document states,
unless it is empty. -/
theorem outcome_latest_of_decoded {depth : Nat} {asked : String} {w : World σ}
    (decoded : Text.Utf8.decode? octets = some text) (answered : w.nextReply = .answers r)
    (carries : r.Carries depth octets) (taken : ¬ r.Refuses) {version : Version} :
    (((source registry npm).latest asked).run w).outcome = .ok version ↔ ∃ document,
      Json.parse depth text = .ok document ∧ document.States version ∧ version ≠ .empty := by
  have read (document : Json) :
      r.document = .ok document ↔ Json.parse depth text = .ok document := by
    rw [carries text decoded, Json.ofText]
    cases Json.parse depth text <;> simp
  simp only [source, Registry.run_latest, answered, Registry.reading_eq_ok_iff]
  constructor
  · rintro ⟨_, document, ⟨⟩, _, body, states⟩
    exact ⟨document, (read document).1 body, states⟩
  · rintro ⟨document, body, states⟩
    exact ⟨r, document, rfl, taken, (read document).2 body, states⟩

/-- What is installed is what the octets say, if the manifest is a file that may be read. -/
theorem outcome_installed?_of_file {w : World σ}
    (file : w.disk.stat (Manifest.path package directory).text = .ok (.file octets mode))
    (readable : mode &&& 0o400 ≠ 0) (found? : Except Fault (Option Version)) :
    (((source registry npm).installed? package directory).run w).outcome =
        found?.mapError .fault ↔ Manifest.Reads w.depths.documents octets found? := by
  have opened := (Manifest.reads_iff w.depths.documents octets _).2 rfl
  rw [run_installed?, (Manifest.Found.opened file readable opened).installed?_eq,
    Manifest.reads_iff]
  cases Manifest.version? w.depths.documents octets <;> cases found? <;> simp

variable (registry npm) in
/-- **The registry and the manifest are read alike.** Let the body of an answer of success and the
manifest of an installed package, a file that may be read, be the same well-formed octets, and let
the registry's reader take its body for UTF-8. A version that is not empty is the latest one exactly
if it is the one installed. If the query fails, no version is installed or an empty one, provided
that the document is not nested too deeply; if it is, both readers end with the same fault. -/
theorem readers_agree (asked : String) {w w' : World σ}
    (decoded : Text.Utf8.decode? octets = some text) (answered : w.nextReply = .answers r)
    (carries : r.Carries w'.depths.documents octets) (success : 200 ≤ r.status ∧ r.status < 300)
    (file : w'.disk.stat (Manifest.path package directory).text = .ok (.file octets mode))
    (readable : mode &&& 0o400 ≠ 0) :
    let latest := (((source registry npm).latest asked).run w).outcome
    let installed := (((source registry npm).installed? package directory).run w').outcome
    (∀ version, version ≠ .empty →
        (latest = .ok version ↔ installed = .ok (some version))) ∧
      ((∀ container, Json.parse w'.depths.documents text ≠ .error (.tooDeep container)) →
        (∃ failure, latest = .error failure) →
          installed = .ok none ∨ installed = .ok (some .empty)) ∧
      ∀ container, Json.parse w'.depths.documents text = .error (.tooDeep container) →
        latest = .error (.fault (.tooDeep container.tooDeepReport)) ∧
          installed = .error (.fault (.tooDeep container.tooDeepReport)) := by
  intro latest installed
  have taken : ¬ r.Refuses := by
    unfold Response.Refuses
    omega
  have found (found? : Except Fault (Option Version)) :
      installed = found?.mapError .fault ↔
        Manifest.Reads w'.depths.documents octets found? :=
    outcome_installed?_of_file file readable found?
  have given (version : Version) : latest = .ok version ↔ ∃ document,
      Json.parse w'.depths.documents text = .ok document ∧ document.States version ∧
        version ≠ .empty :=
    outcome_latest_of_decoded decoded answered carries taken
  refine ⟨fun version telling => ?_, fun shallow failed => ?_, fun container deep => ?_⟩
  · rw [given]
    refine .trans ?_ (found (.ok (some version))).symm
    rw [Manifest.reads_version_iff decoded]
    simp only [telling, ne_eq, not_false_eq_true, and_true]
  · obtain ⟨failure, failed⟩ := failed
    obtain ⟨found?, reads⟩ : ∃ found?, Manifest.Reads w'.depths.documents octets found? :=
      ⟨_, (Manifest.reads_iff _ octets _).2 rfl⟩
    have same := (found found?).2 reads
    cases reads with
    | damaged | refused | silent => exact .inl same
    | nested decoded' deep =>
      cases decoded.symm.trans decoded'
      exact absurd deep (shallow _)
    | @stated _ document version decoded' read states =>
      cases decoded.symm.trans decoded'
      by_cases telling : version = .empty
      · exact .inr (telling ▸ same)
      · have answer := (given version).2 ⟨document, read, states, telling⟩
        exact nomatch failed.symm.trans answer
  · refine ⟨?_, (found (.error _)).2 (.nested decoded deep)⟩
    have body : r.document = .error (.tooDeep container.tooDeepReport) := by
      rw [carries text decoded, Json.ofText, deep]
      rfl
    have escapes : Registry.Escapes w.nextReply (.tooDeep container.tooDeepReport) :=
      answered ▸ .unread taken body (.tooDeep _)
    rw [← registry.reading_eq_fault_iff asked] at escapes
    simpa only [latest, source, Registry.run_latest] using escapes

namespace Mirrored

/-- A document that states a version, with line breaks of two characters. -/
def document : String := "\x7b\r\n\"version\": \"1.10.4\"\r\n\x7d"

/-- The octets of the document. -/
def body : List UInt8 := Text.Utf8.encode document

/-- The answer with the document. -/
def answer : Response := .declaredUtf8 Depths.usual.documents 200 none body

/-- A machine on which the registry gives the document and the manifest of the server holds it. -/
def world : World Unit :=
  ⟨{ Stale.machine with
      disk := Stale.machine.disk.put ["package.json", "intelephense", "node_modules", "p"]
        (.file body 0o600)
      replies := [.answers answer] }, ()⟩

end Mirrored

/-- The version that is found in the document by one reader is found by the other. -/
theorem readers_agree_mirrored :
    (((source Registry.Asked.standard {}).latest Server.package).run Mirrored.world).outcome =
        .ok (.ofText "1.10.4") ∧
      (((source Registry.Asked.standard {}).installed? Server.package "/p").run
        Mirrored.world).outcome = .ok (some (.ofText "1.10.4")) := by
  have decoded : Text.Utf8.decode? Mirrored.body = some Mirrored.document.toList := by
    decide +kernel
  have read : (Json.parse Depths.usual.documents Mirrored.document.toList).toOption.bind
      Json.version? = some (.ofText "1.10.4") := by
    decide +kernel
  have carries : Mirrored.answer.Carries Mirrored.world.depths.documents Mirrored.body :=
    Response.carries_declaredUtf8 _ _ _ _
  have file : Mirrored.world.disk.stat (Manifest.path Server.package "/p").text =
      .ok (.file Mirrored.body 0o600) := rfl
  obtain ⟨given, -⟩ := readers_agree Registry.Asked.standard {} Server.package decoded
    (w := Mirrored.world) rfl carries (by decide) file (by decide)
  obtain ⟨document, body, stated⟩ := Option.bind_eq_some_iff.1 read
  have latest : (((source Registry.Asked.standard {}).latest Server.package).run
      Mirrored.world).outcome = .ok (.ofText "1.10.4") :=
    (outcome_latest_of_decoded decoded rfl carries
      (by simp [Response.Refuses, Mirrored.answer])).2
      ⟨document, toOption_eq_some_iff.1 body, Json.version?_eq_some_iff.1 stated, by decide⟩
  exact ⟨latest, (given _ (by decide)).1 latest⟩

end Npm

end ServerLaunch
