import ServerLaunch.Files.Disk

/-!
# Searching for programs

Finding a program by name along a search path, a text of directories separated by
colons. A name with a slash is not searched for: it is the program itself, or nothing
is. The answer is the path as the search put it together, not a canonical one, so a
relative directory gives a relative answer and an empty one the bare name.

## Main definitions

* `below`: a name in a directory of the search path.
* `Disk.search`: the first program of a name along a search path.
-/
namespace ServerLaunch

/-- A name in a directory of the search path, with one slash between them unless the
directory is empty or ends in a slash. -/
def below (directory name : String) : String :=
  if directory = "" ∨ directory.toList.getLast? = some '/' then directory ++ name
  else directory ++ "/" ++ name

/-- The directories that are searched when there is no search path at all. -/
def standardSearchPath : String := "/bin:/usr/bin"

/-- The first program of the name along the search path; an empty search path has none. -/
def Disk.search (disk : Disk) (searchPath : String) (name : String) : Option String :=
  if name.toList.contains '/' then
    if disk.holdsProgram name then some name else none
  else if searchPath = "" then none
  else ((Text.split ':' searchPath).map (below · name)).find? disk.holdsProgram

end ServerLaunch
