/-!
# File trees

The contents of a file system as a value: which entry stands at which location.
Locations are exact; how the names of a path lead to one is the business of look-up.

## Main definitions

* `Location`: the names from an entry up to the root.
* `Entry`: a directory, a file with its content and permissions, or a symbolic link.
* `FileTree.get?`, `FileTree.put`, `FileTree.erase`: reading and changing a tree.

**Main statements.** An entry that was put is found (`get?_put_self`) and nothing else
changes (`get?_put_of_ne`). What does not lie below an erased location stays
(`get?_erase_of_not_suffix`).
-/
namespace ServerLaunch

/-- Where an entry stands: its name, then the names of the directories above it, nearest
first. The root is the empty location. -/
abbrev Location := List String

/-- What stands at a location. -/
inductive Entry where
  | directory
  | file (content : List UInt8) (mode : Nat)
  | link (target : String)
deriving DecidableEq, Repr

/-- Whether the entry is a regular file. -/
def Entry.isFile : Entry → Bool
  | file _ _ => true
  | _ => false

/-- Whether the entry is a directory. -/
def Entry.isDirectory : Entry → Bool
  | directory => true
  | _ => false

/-- Whether the entry is a link. -/
def Entry.isLink : Entry → Bool
  | link _ => true
  | _ => false

/-- Whether the entry is a regular file that its owner may run. -/
def Entry.isProgram : Entry → Bool
  | file _ mode => mode &&& 0o100 != 0
  | _ => false

/-- The content of a regular file that its owner may read. -/
def Entry.content? : Entry → Option (List UInt8)
  | file content mode => if mode &&& 0o400 != 0 then some content else none
  | _ => none

/-- The entries of a file system, each location at most once. -/
structure FileTree where
  entries : List (Location × Entry)
deriving DecidableEq, Repr

namespace FileTree

/-- The tree that holds the root only. -/
def empty : FileTree := ⟨[]⟩

/-- The entry at a location. The root is always a directory. -/
def get? (tree : FileTree) (location : Location) : Option Entry :=
  if location = [] then some .directory else tree.entries.lookup location

/-- The tree with an entry at a location, in place of the one that stood there. -/
def put (tree : FileTree) (location : Location) (entry : Entry) : FileTree :=
  ⟨tree.entries.filter (·.1 != location) ++ [(location, entry)]⟩

/-- The tree without a location and everything below it. -/
def erase (tree : FileTree) (location : Location) : FileTree :=
  ⟨tree.entries.filter fun e => !location.isSuffixOf e.1⟩

/-- How an entry is listed: a slash marks a directory and an at sign a link. -/
def mark : Entry → String
  | .directory => "/"
  | .link _ => "@"
  | .file _ _ => ""

/-- Everything below a location, as paths from there in the order of their characters. -/
def listing (tree : FileTree) (top : Location) : List String :=
  let below := tree.entries.filter fun e => top.isSuffixOf e.1 && e.1 != top
  let names := below.map fun e =>
    String.intercalate "/" (e.1.reverse.drop top.length) ++ mark e.2
  names.mergeSort fun a b => !decide (b < a)

/-! ## Laws of put and erase -/

/-- A filter on locations keeps what is listed under those that pass it. -/
theorem lookup_filter (entries : List (Location × Entry)) (keeps : Location → Bool)
    (location : Location) :
    (entries.filter fun e => keeps e.1).lookup location =
      if keeps location then entries.lookup location else none := by
  induction entries with
  | nil => simp
  | cons e rest ih =>
    obtain ⟨at_, entry⟩ := e
    by_cases same : location = at_
    · subst same
      cases kept : keeps location <;> simp [kept, ih]
    · cases kept : keeps at_ <;> simp [kept, List.lookup_cons, beq_false_of_ne same, ih]

theorem lookup_append (entries more : List (Location × Entry)) (location : Location) :
    (entries ++ more).lookup location = (entries.lookup location).or (more.lookup location) := by
  induction entries with
  | nil => rfl
  | cons e rest ih =>
    obtain ⟨at_, entry⟩ := e
    simp only [List.cons_append, List.lookup_cons, ih]
    split <;> simp

/-- An entry that was put is found. -/
@[simp] theorem get?_put_self (tree : FileTree) {location : Location} (entry : Entry)
    (h : location ≠ []) : (tree.put location entry).get? location = some entry := by
  simp [get?, put, h, lookup_append, lookup_filter _ (· != location)]

/-- Putting an entry changes no other location. -/
theorem get?_put_of_ne (tree : FileTree) {location other : Location} (entry : Entry)
    (h : other ≠ location) : (tree.put location entry).get? other = tree.get? other := by
  simp [get?, put, lookup_append, lookup_filter _ (· != location), h, List.lookup_cons,
    beq_false_of_ne h]

/-- Erasing a location changes nothing that lies neither there nor below. -/
theorem get?_erase_of_not_suffix (tree : FileTree) {location other : Location}
    (h : ¬ location <:+ other) : (tree.erase location).get? other = tree.get? other := by
  have apart : location.isSuffixOf other = false := by
    rwa [← Bool.not_eq_true, List.isSuffixOf_iff_suffix]
  simp [get?, erase, lookup_filter _ (fun below => !location.isSuffixOf below), apart]

end FileTree

end ServerLaunch
