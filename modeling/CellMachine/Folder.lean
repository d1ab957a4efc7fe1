set_option relaxedAutoImplicit false
set_option autoImplicit false

/-!
# Reading files

Program texts come from files. A reader gives the text behind a path or says why there is none.
A folder is a reader whose files are known beforehand: a path is followed name by name, from the
folder itself or from the root of the file system. Every name, a dot included, asks for a folder
to look it up in, and a slash at the end of a path asks for a folder as a dot after it would.
A place is the list of names that lead to it from the root, so that enough steps upwards reach
the root from anywhere. Around the folder only what every system has is known: the folders above
it and the standard folders and files.

## Main definitions

* `CellMachine.Unreadable` — why a path gives no text.
* `CellMachine.Reader` — the text behind each path.
* `CellMachine.Place` — the names that lead to a place from the root.
* `CellMachine.Folder` — a place, and the files below it with their bytes.
* `CellMachine.Folder.follow` — what the names of a path lead to.
* `CellMachine.Folder.reader` — the reader of a folder.
-/

namespace CellMachine

/-! ## Readers -/

/-- Why a path gives no text. -/
inductive Unreadable where
  /-- There is nothing behind the path. -/
  | notFound
  /-- The path goes through something that is not a folder. -/
  | notFolder
  /-- There is a folder behind the path. -/
  | folder
  /-- The path or a name in it is too long. -/
  | tooLong
  /-- The bytes of the file are not UTF-8. -/
  | notText
  /-- Any other reason, in the words of the system. -/
  | other (message : String)
  deriving DecidableEq

/-- The wording for a path that gives no text. -/
def Unreadable.message : Unreadable → String
  | notFound => "No such file or directory (os error 2)"
  | notFolder => "Not a directory (os error 20)"
  | folder => "Is a directory (os error 21)"
  | tooLong => "File name too long (os error 36)"
  | notText => "stream did not contain valid UTF-8"
  | other message => message

/-- The text behind each path. -/
abbrev Reader := String → Except Unreadable String

/-- The text of a file with the given bytes. -/
def decodeFile (bytes : ByteArray) : Except Unreadable String :=
  match String.fromUTF8? bytes with
  | some text => .ok text
  | none => .error .notText

/-! ## Paths -/

/-- The largest number of bytes in a name. -/
def maxNameBytes : Nat := 255

/-- The largest number of bytes in a path. -/
def maxPathBytes : Nat := 4095

/-- The names that a path goes through. Repeated slashes count as one, and a slash at the end
counts as a dot after it. -/
def pathNames (path : String) : List String :=
  (path.splitOn "/").filter (· ≠ "") ++ if path.endsWith "/" then ["."] else []

/-- The names that lead to a place from the root of the file system. -/
abbrev Place := List String

namespace Place

/-- The place that a name leads to from a place. The root is above itself. -/
def go (place : Place) (name : String) : Place :=
  if name = "." then place
  else if name = ".." then place.dropLast
  else place ++ [name]

end Place

/-! ## What every system has -/

/-- What there is at a place. -/
inductive Node where
  /-- A file with its bytes. -/
  | file (bytes : ByteArray)
  /-- A folder. -/
  | folder

/-- The folders of the hierarchy standard. -/
def standardFolders : List String :=
  ["bin", "boot", "dev", "etc", "home", "lib", "lib64", "media", "mnt", "opt", "proc", "root",
    "run", "sbin", "srv", "sys", "tmp", "usr", "var",
    "dev/fd", "dev/pts", "dev/shm", "etc/opt", "proc/self", "proc/sys", "run/lock",
    "usr/bin", "usr/games", "usr/include", "usr/lib", "usr/lib64", "usr/libexec", "usr/local",
    "usr/sbin", "usr/share", "usr/src",
    "usr/local/bin", "usr/local/etc", "usr/local/games", "usr/local/include", "usr/local/lib",
    "usr/local/man", "usr/local/sbin", "usr/local/share", "usr/local/src",
    "usr/share/doc", "usr/share/info", "usr/share/man", "usr/share/misc",
    "var/cache", "var/lib", "var/local", "var/lock", "var/log", "var/mail", "var/opt", "var/run",
    "var/spool", "var/tmp"]

/-- The standard files with their texts: the empty device, an input with nothing on it and the
list of accounts, which starts with the administrator. -/
def standardFiles : List (String × String) :=
  [("dev/null", ""), ("dev/stdin", ""), ("etc/passwd", "root:x:0:0:root:/root:/bin/sh\n")]

/-- What every system has at a place. -/
def standardNode? (place : Place) : Option Node :=
  match standardFiles.find? fun file => pathNames file.1 = place with
  | some file => some (.file file.2.toUTF8)
  | none =>
    if place = [] ∨ standardFolders.any fun name => pathNames name = place then some .folder
    else none

/-! ## Folders -/

/-- A folder with the files below it. -/
structure Folder where
  /-- The names and the bytes. A name with slashes stands for a file in a folder inside. -/
  files : List (String × ByteArray)
  /-- Where the folder is: unless said otherwise, a folder without a name of its own among the
  temporary ones. No path has an empty name, so none leads down to it. -/
  place : Place := ["tmp", ""]

namespace Folder

/-- What the folder has behind the given names. -/
def inner? (folder : Folder) (names : List String) : Option Node :=
  match folder.files.find? fun file => pathNames file.1 = names with
  | some file => some (.file file.2)
  | none =>
    if folder.files.any fun file => names.isPrefixOf (pathNames file.1) then some .folder
    else none

/-- What there is at a place: the folder and all above it are folders, what is below it is its
own, and the rest is what every system has. -/
def node? (folder : Folder) (place : Place) : Option Node :=
  if place.isPrefixOf folder.place then some .folder
  else if folder.place.isPrefixOf place then folder.inner? (place.drop folder.place.length)
  else standardNode? place

/-- What the names of a path lead to from a place with the given node. -/
def follow (folder : Folder) (place : Place) (node : Node) : List String → Except Unreadable Node
  | [] => .ok node
  | name :: rest =>
    match node with
    | .file _ => .error .notFolder
    | .folder =>
      if maxNameBytes < name.utf8ByteSize then .error .tooLong
      else
        match folder.node? (place.go name) with
        | none => .error .notFound
        | some node' => folder.follow (place.go name) node' rest

/-- The place where a path starts: the root if a slash comes first, else the folder. -/
def start (folder : Folder) (path : String) : Place :=
  if path.startsWith "/" then [] else folder.place

/-- The text behind a path that is followed from inside the folder. -/
def reader (folder : Folder) : Reader := fun path =>
  if maxPathBytes < path.utf8ByteSize then .error .tooLong
  else
    match folder.follow (folder.start path) .folder (pathNames path) with
    | .ok (.file bytes) => decodeFile bytes
    | .ok .folder => .error .folder
    | .error e => .error e

end Folder

end CellMachine
