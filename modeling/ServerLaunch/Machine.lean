import ServerLaunch.Action
import ServerLaunch.Files.Edit
import ServerLaunch.Files.Search
import ServerLaunch.Json.Value

/-!
# The machine

Everything outside the launcher that it looks at or acts on: the files, the
environment of the process, the network and the processes it starts. The network and
the processes are given by what they will do next, so that running an action is a
function of the machine. How the body of an answer is decoded and read is a matter of
the network as well: an answer comes with what reading it gives.

A package source may keep a memory of its own beside the machine. The memory is
abstract, so nothing but the source can look into it.

## Main definitions

* `Response`, `Ending`: what a server answers and what a process does.
* `Depths`: how deeply the recursions of the launcher may be nested.
* `Machine`: the machine.
* `World`: a machine with the memory of a package source.
* `World.request`, `World.process`: the network and the processes.
-/
namespace ServerLaunch

/-- What a server answers to a request. -/
structure Response where
  status : Int
  reason? : Option String
  /-- The address that the answer names as its own, where it is not the one that was asked. -/
  address? : Option String
  /-- What the body is read as, or the fault that reading it ends with. -/
  document : Except Fault Json
deriving Repr

/-- What happens to a request. -/
inductive Reply where
  | fails (fault : Fault)
  | answers (response : Response)
deriving Repr

/-- The outcome of a request. -/
def Reply.outcome : Reply → Except Fault Response
  | fails fault => .error fault
  | answers response => .ok response

/-- How a process ended: its code and what it wrote on its error stream, if that was kept. -/
structure Exit where
  code : Int
  complaint? : Option String
deriving DecidableEq, Repr

/-- What happens to a process: it does not start, or it changes files and ends. -/
inductive Ending where
  | refused (fault : Fault)
  | ends (exit : Exit) (edits : List FileEdit)
deriving DecidableEq, Repr

/-- How a process ends, and the disk that it leaves. -/
def Ending.effect (disk : Disk) : Ending → Except Fault Exit × Disk
  | refused fault => (.error fault, disk)
  | ends exit edits =>
    match disk.editAll edits with
    | (.ok (), disk') => (.ok exit, disk')
    | (.error fault, disk') => (.error fault, disk')

/-- What the stack leaves to each recursion of the launcher. -/
structure Depths where
  /-- The containers of a document that may be open inside one another. -/
  documents : Nat
  /-- The links that may be open inside one another when a path is resolved. -/
  links : Nat
  /-- The directories that may be asked for inside one another, each for one below it. -/
  directories : Nat
deriving DecidableEq, Repr

/-- What a stack of the usual size leaves. -/
def Depths.usual : Depths := { documents := 980, links := 979, directories := 980 }

/-- The machine that the launcher runs on. -/
structure Machine where
  disk : Disk
  /-- The variables of the process. -/
  environment : List (String × String)
  /-- The path of the running program, empty if it is not known. -/
  executable : String
  /-- The directory that the system names for what the launcher keeps for the user. -/
  userCache : String
  depths : Depths
  /-- What the next requests meet. -/
  replies : List Reply
  /-- What the next processes do. -/
  endings : List Ending
deriving Repr

namespace Machine

/-- The search path of the process; the standard one if none is set. -/
def searchPath (m : Machine) : String := (m.environment.lookup "PATH").getD standardSearchPath

/-- The first program of a name on the search path of the process. -/
def program? (m : Machine) (name : String) : Option String := m.disk.search m.searchPath name

/-- The fault of a request when there is no network. -/
def offline : Fault := .transport .connection "offline"

/-- What the next request meets. -/
def nextReply (m : Machine) : Reply := m.replies.head?.getD (.fails offline)

/-- What the next process does; when nothing is said, it ends well. -/
def nextEnding (m : Machine) : Ending := m.endings.head?.getD (.ends ⟨0, some ""⟩ [])

end Machine

/-- A machine with the memory of a package source. -/
structure World (σ : Type) extends Machine where
  memory : σ

namespace World

variable {σ α : Type}

/-- Look at the machine; a fault met there is a failure. -/
def inspect (f : Machine → Except Fault α) : Action (World σ) α :=
  .observe fun w => (f w.toMachine).mapError .fault

@[simp] theorem run_inspect (f : Machine → Except Fault α) (w : World σ) :
    (inspect f).run w = ⟨(f w.toMachine).mapError .fault, w, []⟩ := rfl

/-- Look at what cannot fail. -/
def view (f : Machine → α) : Action (World σ) α := .observe fun w => .ok (f w.toMachine)

@[simp] theorem run_view (f : Machine → α) (w : World σ) :
    (view f).run w = ⟨.ok (f w.toMachine), w, []⟩ := rfl

/-- Whether a path leads to a regular file. -/
def isFile (path : Path) : Action (World σ) Bool := inspect fun m => m.disk.isFile path

@[simp] theorem run_isFile (path : Path) (w : World σ) :
    (isFile path).run w = ⟨(w.disk.isFile path).mapError .fault, w, []⟩ := rfl

/-- Change the files. -/
def changeFiles (f : Disk → Except Fault α × Disk) : Action (World σ) α :=
  .change fun w => ((f w.disk).1, { w with disk := (f w.disk).2 })

@[simp] theorem run_changeFiles (f : Disk → Except Fault α × Disk) (w : World σ) :
    (changeFiles f).run w =
      ⟨(f w.disk).1.mapError .fault, { w with disk := (f w.disk).2 }, []⟩ := rfl

/-! ## The network -/

/-- Ask a server. -/
def request (url : String) (timeout : Number.Binary64) : Action (World σ) Response :=
  ⟨fun w =>
    ⟨w.nextReply.outcome.mapError .fault,
      { w with replies := w.replies.tail }, [.request url timeout]⟩⟩

/-! ## Processes -/

/-- Run a process to its end in a directory. -/
def process (arguments : List String) (directory : String) : Action (World σ) Exit :=
  ⟨fun w =>
    let effect := w.nextEnding.effect w.disk
    ⟨effect.1.mapError .fault, { w with disk := effect.2, endings := w.endings.tail },
      [.process arguments directory]⟩⟩

end World

end ServerLaunch
