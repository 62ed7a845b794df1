import DarkGravity.World

/-!
# Trees of files

Directories and files that are held in memory, and the way of a path through them. A path is
followed name by name, so what stops it first is what is reported: a missing name, a name that is
too long, or a file where the path goes on.
-/

namespace DarkGravity

/-- A file or a directory with its entries. -/
inductive FileTree where
  | file (contents : ByteArray)
  | directory (entries : List (String × FileTree))

namespace FileTree

/-- The most bytes that a name may have. -/
def longestName : Nat := 255

/-- The most bytes that a path may have. -/
def longestPath : Nat := 4095

/-- Goes one name further. A trail holds the nodes from the present one up to the root, which is
above itself. The empty name and the dot name the directory that they stand in. -/
def step (trail : List FileTree) (name : String) : Except ReadError (List FileTree) :=
  match trail with
  | .directory entries :: above =>
    if name.isEmpty || name = "." then .ok trail
    else if name = ".." then .ok (if above.isEmpty then trail else above)
    else if longestName < name.utf8ByteSize then .error .nameTooLong
    else
      match entries.lookup name with
      | some node => .ok (node :: trail)
      | none => .error .notFound
  | _ => .error .notDirectory

/-- The names of a path, which begins at the root or else at the working directory. -/
def names (working : List String) (path : String) : List String :=
  let names := (path.toList.splitOn '/').map String.ofList
  if path.startsWith "/" then names else working ++ names

/-- Reads the file that a path leads to. -/
def read (root : FileTree) (working : List String) (path : String) :
    Except ReadError ByteArray :=
  if path.isEmpty then .error .notFound
  else if longestPath < path.utf8ByteSize then .error .nameTooLong
  else
    match (names working path).foldlM step [root] with
    | .ok (.file contents :: _) => .ok contents
    | .ok _ => .error .isDirectory
    | .error e => .error e

end FileTree

end DarkGravity
