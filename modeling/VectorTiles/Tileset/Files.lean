import VectorTiles.Text.Quoted

/-!
# Files

The files that a tileset document can be read from.

**Data.** A collection of files and directories by path. The content of a file may be denied to
readers. A path is a list of names between slashes; empty names and names of a single point do not
count. Names and paths have a greatest length in bytes.

**Rules.** A path is followed name by name, and the first problem on the way is reported. A name of
two points leads back to the directory before.

**Results.**

* `normalPath`: the text of a path without the names that do not count.
* `Files.read`: the content of a file, or the problem that prevents it.
-/

namespace VectorTiles

section Paths

def pathNames (path : String) : List String :=
  (path.splitOn "/").filter fun name => name ≠ "" && name ≠ "."

/-- What stands in front of the first name: two leading slashes are kept, more count as one. -/
def pathRoot (path : String) : String :=
  match path.toList.takeWhile (· == '/') with
  | [] => ""
  | ['/', '/'] => "//"
  | _ => "/"

/-- The text of a path without the names that do not count; the path of no name is a point. -/
def normalPath (path : String) : String :=
  match pathRoot path ++ "/".intercalate (pathNames path) with
  | "" => "."
  | text => text

def leadsThrough (path ancestor : String) : Bool :=
  (ancestor ++ "/").isPrefixOf path

end Paths

/-- What stands at a path. -/
inductive FileEntry where
  | file (content : List UInt8)
  /-- A file whose content may not be read. -/
  | deniedFile
  | directory

/-- Files and directories by the normal text of their path. -/
structure Files where
  entries : List (String × FileEntry)

/-- Why a path cannot be read. -/
inductive FileProblem where
  | missing
  | directory
  | throughFile
  | tooLong
  | denied
  deriving DecidableEq, Repr

def FileProblem.message (problem : FileProblem) (path : String) : String :=
  (match problem with
    | missing => "[Errno 2] No such file or directory: "
    | directory => "[Errno 21] Is a directory: "
    | throughFile => "[Errno 20] Not a directory: "
    | tooLong => "[Errno 36] File name too long: "
    | denied => "[Errno 13] Permission denied: ") ++ Text.quoted path

namespace Files

def nameLimit : Nat := 255

def pathLimit : Nat := 4095

/-- What stands at a path below the place where relative paths begin. -/
def entryAt? (files : Files) (path : String) : Option FileEntry :=
  match files.entries.lookup path with
  | some entry => some entry
  | none =>
    if files.entries.any fun entry => leadsThrough entry.1 path then some .directory else none

/-- Goes along names outside of the place where relative paths begin. Nothing is known to be there
but the directories around that place. -/
def readOutside : List String → Except FileProblem (List UInt8)
  | [] => .error .directory
  | ".." :: names => readOutside names
  | name :: _ => if nameLimit < name.utf8ByteSize then .error .tooLong else .error .missing

/-- Goes along names from the directory that the names before lead to; those come last first. -/
def readFrom (files : Files) (before : List String) :
    List String → Except FileProblem (List UInt8)
  | [] => .error .directory
  | name :: names =>
    if name = ".." then
      match before with
      | [] => readOutside names
      | _ :: before => files.readFrom before names
    else if nameLimit < name.utf8ByteSize then .error .tooLong
    else
      match files.entryAt? ("/".intercalate (name :: before).reverse) with
      | none => .error .missing
      | some .directory => files.readFrom (name :: before) names
      | some (.file content) => if names.isEmpty then .ok content else .error .throughFile
      | some .deniedFile => if names.isEmpty then .error .denied else .error .throughFile

/-- The content of the file at a path in its normal form. -/
def read (files : Files) (path : String) : Except FileProblem (List UInt8) :=
  match files.entries.lookup path with
  | some (.file content) => .ok content
  | some .deniedFile => .error .denied
  | some .directory => .error .directory
  | none =>
    if pathLimit < path.utf8ByteSize then .error .tooLong
    else if pathRoot path = "" then files.readFrom [] (pathNames path)
    else readOutside (pathNames path)

end Files
end VectorTiles
