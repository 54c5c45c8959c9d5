import Chip8.Error
import Chip8.Text.Split
import Chip8.Word

/-! Folders of files. A path leads from a folder through other folders to a file; here a folder holds no
others, and of those around it nothing is known but that they are there. -/

namespace Chip8

/-- What can be done with the files of a folder: to read the one at a path, and to see whether one can be
written there. -/
structure Folder where
  read : String → Except FileError (List Byte)
  accepts : String → Except FileError Unit

abbrev Files := List (String × List Byte)

namespace Files

/-- Where a path has come to: the folder itself, the outermost folder, some other one, a file, or a name in
a folder that belongs to no file yet. -/
inductive Spot where
  | home
  | root
  | away
  | file (name : String) (bytes : List Byte)
  | free (home : Bool) (name : String)
deriving DecidableEq, Repr

def nameLimit : Nat := 255

def pathLimit : Nat := 4095

def systemFolders : List String := [
  "bin", "dev", "etc", "home", "lib", "proc", "root", "sys", "tmp", "usr", "var"]

def emptyFile : String := "/dev/null"

def enter (files : Files) (name : String) : Spot :=
  match files.lookup name with
  | some bytes => .file name bytes
  | none => .free true name

/-- One step on a path. -/
def step (files : Files) (spot : Spot) (name : String) : Except FileError Spot :=
  match spot with
  | .file _ _ => .error .notFolder
  | .free _ _ => .error .missing
  | spot =>
    if name.isEmpty || name = "." then .ok spot
    else if name = ".." then .ok (if spot = .root then .root else .away)
    else if nameLimit < name.utf8ByteSize then .error .longName
    else if spot = .home then .ok (enter files name)
    else if spot = .root && systemFolders.contains name then .ok .away
    else .ok (.free false name)

def walk (files : Files) (spot : Spot) : List String → Except FileError Spot
  | [] => .ok spot
  | name :: names => do walk files (← step files spot name) names

def names (path : String) : List String := (Text.splitOn '/' path.toList).map String.ofList

def locate (files : Files) (path : String) : Except FileError Spot :=
  if path.contains '\x00' then .error .emptyByte
  else if path.isEmpty then .error .missing
  else if pathLimit < path.utf8ByteSize then .error .longName
  else if path = emptyFile then .ok (.file path [])
  else walk files (if path.startsWith "/" then .root else .home) (names path)

def read (files : Files) (path : String) : Except FileError (List Byte) := do
  match ← locate files path with
  | .file _ bytes => return bytes
  | .free _ _ => throw .missing
  | _ => throw .isFolder

def accepts (files : Files) (path : String) : Except FileError Unit := do
  match ← locate files path with
  | .file _ _ => return ()
  | .free _ _ => return ()
  | _ => throw .isFolder

def toFolder (files : Files) : Folder := { read := files.read, accepts := files.accepts }

def newName? (files : Files) (path : String) : Option String :=
  match locate files path with
  | .ok (.free true name) => some name
  | _ => none

end Files

/-- The names on a path without those that lead nowhere: a name and the step back behind it cancel, and
there is no step back from the outermost folder. -/
def shortened (absolute : Bool) (passed : List String) : List String → List String
  | [] => passed.reverse
  | name :: names =>
    if name.isEmpty || name = "." then shortened absolute passed names
    else if name ≠ ".." then shortened absolute (name :: passed) names
    else
      match passed with
      | [] => shortened absolute (if absolute then [] else [name]) names
      | last :: rest =>
        shortened absolute (if last = ".." then name :: passed else rest) names

def shortPath (path : String) : String :=
  let absolute := path.startsWith "/"
  let body := "/".intercalate (shortened absolute [] (Files.names path))
  if absolute then "/" ++ body else if body.isEmpty then "." else body

end Chip8
