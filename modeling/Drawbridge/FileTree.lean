/-!
# File trees

What a directory holds, and how a path leads from it to a file. `FileTree.read` is the text of the
file that a path names.
-/

namespace Drawbridge

/-- A file with its bytes, or a directory. -/
inductive FileEntry where
  | file (content : List UInt8)
  | directory
  deriving DecidableEq, Repr

/-- The entries below a directory by their names on the way. A directory needs no entry if there is
one below it. -/
structure FileTree where
  entries : List (List String × FileEntry)

/-- Why a file cannot be read. -/
inductive ReadFault where
  | missing
  | notDirectory
  | isDirectory
  | tooLong
  | zeroByte
  | notUtf8
  deriving DecidableEq, Repr

/-- What the operating system, or the reader of a text, says of the fault. -/
def ReadFault.message : ReadFault → String
  | missing => "No such file or directory (os error 2)"
  | notDirectory => "Not a directory (os error 20)"
  | isDirectory => "Is a directory (os error 21)"
  | tooLong => "File name too long (os error 36)"
  | zeroByte => "file name contained an unexpected NUL byte"
  | notUtf8 => "stream did not contain valid UTF-8"

namespace FileTree

/-- The names on a path, each a way to somewhere. -/
def names (path : String) : List String :=
  ((path.splitOn "/").filter (· ≠ ""))

/-- A tree with the given entries by their paths. -/
def ofList (files : List (String × FileEntry)) : FileTree :=
  ⟨files.map fun (path, entry) => (names path, entry)⟩

/-- What is at a place below the directory. -/
def entry? (t : FileTree) (place : List String) : Option FileEntry :=
  match t.entries.lookup place with
  | some entry => some entry
  | none =>
    if place.isEmpty || t.entries.any (fun (names, _) => place.isPrefixOf names) then
      some .directory
    else none

/-! ## Paths -/

/-- Where a path has led so far: to an entry, or out of the tree to a directory that is not
known. -/
inductive Place where
  | inside (names : List String) (entry : FileEntry)
  | outside

/-- One name further. -/
def advance (t : FileTree) (name : String) : Place → Except ReadFault Place
  | .inside _ (.file _) => .error .notDirectory
  | .inside names .directory =>
    if name = "." then .ok (.inside names .directory)
    else if name = ".." then
      .ok (if names.isEmpty then .outside else .inside names.dropLast .directory)
    else if 255 < name.utf8ByteSize then .error .tooLong
    else
      match t.entry? (names ++ [name]) with
      | some entry => .ok (.inside (names ++ [name]) entry)
      | none => .error .missing
  | .outside =>
    if name = "." || name = ".." then .ok .outside
    else if 255 < name.utf8ByteSize then .error .tooLong
    else .error .missing

/-- The end of a path. A slash at its end asks for a directory. -/
def find (t : FileTree) (path : String) : Except ReadFault Place :=
  if path.contains '\x00' then .error .zeroByte
  else if path.isEmpty then .error .missing
  else if 4096 ≤ path.utf8ByteSize then .error .tooLong
  else
    let start : Place := if path.startsWith "/" then .outside else .inside [] .directory
    let way := names path ++ if path.endsWith "/" then ["."] else []
    way.foldlM (fun place name => t.advance name place) start

/-- The text of the file that a path names. -/
def read (t : FileTree) (path : String) : Except ReadFault String :=
  match t.find path with
  | .error fault => .error fault
  | .ok (.inside _ (.file content)) =>
    match String.fromUTF8? ⟨content.toArray⟩ with
    | some text => .ok text
    | none => .error .notUtf8
  | .ok (.inside _ .directory) | .ok .outside => .error .isDirectory

end FileTree

end Drawbridge
