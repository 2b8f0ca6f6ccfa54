import PipelineLint.FileSystem

/-!
# File systems from a listing

The file system that holds the files of a listing in the working directory, and around it what every
machine has: the usual directories, and the file that is always empty. A path is walked name by
name, from the root or from the working directory. `.` stays and `..` goes up, as far as the root.

## Main definitions

* `FileSystem.Node` — a file with its content, or a directory
* `FileSystem.ofListing` — the file system that holds the files of a listing
-/

namespace PipelineLint.FileSystem

/-- What a listing says about one path. -/
inductive Node where
  | file (content : List UInt8)
  | directory

/-- Nodes by the names on the way to them from the root. -/
abbrev Listing := List (List (List Char) × Node)

/-! ## Paths -/

/-- The names of a path, split at the slashes. -/
def names : List Char → List (List Char)
  | [] => [[]]
  | c :: s =>
    if c = '/' then [] :: names s
    else
      match names s with
      | [] => [[c]]
      | name :: more => (c :: name) :: more

/-- Whether a name in a path says nothing: it is empty or `.`. -/
def isIdle (name : List Char) : Bool := name.isEmpty || name == ['.']

/-- The way that a path without `..` describes. -/
def wayOf (path : String) : List (List Char) := (names path.toList).filter (!isIdle ·)

/-- The longest name, in bytes. -/
def nameLimit : Nat := 255

/-- The longest path, in bytes. -/
def pathLimit : Nat := 4095

/-- The number of bytes of a name. -/
def size (name : List Char) : Nat := name.foldr (fun c n => c.utf8Size + n) 0

/-! ## Listings -/

/-- The way to the working directory: one directory among the temporary ones. -/
def workingDirectory : List (List Char) := wayOf "/tmp/work"

/-- The usual directories below the root. -/
def usualDirectories : List String :=
  ["/bin", "/boot", "/dev", "/etc", "/home", "/lib", "/media", "/mnt", "/opt", "/proc", "/root",
    "/run", "/sbin", "/srv", "/sys", "/tmp", "/usr", "/usr/bin", "/usr/lib", "/usr/local",
    "/usr/sbin", "/usr/share", "/var", "/var/cache", "/var/lib", "/var/log", "/var/tmp"]

/-- What every machine has: its usual directories, the working directory, the file that is always
empty and the one that names the accounts. -/
def machine : Listing :=
  (workingDirectory, .directory) :: (wayOf "/dev/null", .file [])
    :: (wayOf "/etc/passwd", .file "root:x:0:0:root:/root:/bin/bash\n".toUTF8.data.toList)
    :: usualDirectories.map fun path => (wayOf path, .directory)

/-- The listing of a machine whose working directory holds nodes at relative paths. -/
def Listing.ofPaths (nodes : List (String × Node)) : Listing :=
  (nodes.map fun (path, node) => (workingDirectory ++ wayOf path, node)) ++ machine

/-- What stands at the end of a way: a listed node, or a directory on the way to one. -/
def Listing.node? (l : Listing) (way : List (List Char)) : Option Node :=
  match l.lookup way with
  | some node => some node
  | none => if l.any fun (longer, _) => way.isPrefixOf longer then some .directory else none

/-! ## Reading -/

/-- Walks on from the end of a way. An empty name stands before or behind a slash: what it follows
must be a directory. The root is the directory above itself. -/
def walk (l : Listing) : List (List Char) → List (List Char) → Except IoError Node
  | way, [] =>
    match l.node? way with
    | some node => .ok node
    | none => .error .noSuchFile
  | way, name :: more =>
    match l.node? way with
    | none => .error .noSuchFile
    | some (.file _) => .error .notADirectory
    | some .directory =>
      if isIdle name then walk l way more
      else if name = ['.', '.'] then walk l way.dropLast more
      else if nameLimit < size name then .error .nameTooLong
      else walk l (way ++ [name]) more

/-- Reads a path. An absolute path starts at the root, and any other in the working directory. -/
def readListing (l : Listing) (path : List Char) : Except IoError (List UInt8) :=
  if path.contains '\x00' then .error .nulInName
  else if path.isEmpty then .error .noSuchFile
  else if pathLimit < size path then .error .nameTooLong
  else
    match walk l (if path.head? = some '/' then [] else workingDirectory) (names path) with
    | .ok (.file content) => .ok content
    | .ok .directory => .error .isADirectory
    | .error e => .error e

/-- The file system of a machine whose working directory holds the files of `nodes`. -/
def ofListing (nodes : List (String × Node)) : FileSystem :=
  let listing := Listing.ofPaths nodes
  ⟨fun path => readListing listing path.toList⟩

end PipelineLint.FileSystem
