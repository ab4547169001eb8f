import LogicGrid.Puzzle.Reader

/-!
# Files

Reading a file gives its bytes or the reason why there are none. A puzzle is loaded from a file that holds UTF-8 text.
`Folder` is a directory of named files without further directories in it, seen from inside.
-/

namespace LogicGrid

/-- How files are read: the bytes under a path, or why there are none. -/
abbrev FileReader := String → Except FileError ByteArray

/-- The text of a file. -/
def FileReader.text (read : FileReader) (path : String) : Except FileError String :=
  match read path with
  | .ok bytes =>
    match String.fromUTF8? bytes with
    | some s => .ok s
    | none => .error .notUtf8
  | .error e => .error e

/-- Reads a puzzle from a file. -/
def KnowledgeBase.load (read : FileReader) (path : String) : Except Error KnowledgeBase :=
  match read.text path with
  | .ok s => KnowledgeBase.ofText s
  | .error e => .error (.file (some path) e)

/-- The files of a directory by name. -/
structure Folder where
  files : List (String × ByteArray)

namespace Folder

/-- The contents of the file of a name. -/
def file? (d : Folder) (name : String) : Option ByteArray := d.files.lookup name

/-- A part of a path that stays in the same directory. -/
def isHere (part : List Char) : Bool := part.isEmpty || part = ['.']

/-- Follows a path that leads out of the directory. Only directories are known to lie outside. -/
def followOutside (parts : List (List Char)) : Except FileError ByteArray :=
  if parts.all fun part => isHere part || part = ['.', '.'] then .error .isDirectory else .error .notFound

/-- Follows a path, part by part, from the directory itself. -/
def follow (d : Folder) : List (List Char) → Except FileError ByteArray
  | [] => .error .isDirectory
  | part :: parts =>
    if isHere part then d.follow parts
    else if part = ['.', '.'] then followOutside parts
    else
      match d.file? (String.ofList part), parts with
      | some bytes, [] => .ok bytes
      | some _, _ :: _ => .error .notDirectory
      | none, _ => .error .notFound

/-- Reads the file under a path. -/
def read (d : Folder) : FileReader := fun path =>
  match path.toList with
  | [] => .error .notFound
  | '/' :: rest => followOutside (rest.splitOn '/')
  | cs => d.follow (cs.splitOn '/')

end Folder

end LogicGrid
