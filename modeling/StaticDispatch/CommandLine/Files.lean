import StaticDispatch.Text.Division
import StaticDispatch.Text.Quoted

/-!
Contract: the files that a command line names.

A path is written without empty parts and without parts that stay in place. What
a path leads to is a file, a folder, or nothing.

Owns: paths, working folders as values, reading a file of one, and the faults of
reading.
Does not own: what a file holds.
-/

namespace StaticDispatch.CommandLine

inductive FileFault where
  | notFound
  | notFolder
  | isFolder
  | nameTooLong
deriving DecidableEq, Repr

def FileFault.message (fault : FileFault) (path : String) : String :=
  let text :=
    match fault with
    | .notFound => "[Errno 2] No such file or directory"
    | .notFolder => "[Errno 20] Not a directory"
    | .isFolder => "[Errno 21] Is a directory"
    | .nameTooLong => "[Errno 36] File name too long"
  s!"{text}: {Text.quoted path}"

def pathParts (path : String) : List String :=
  ((Text.divide '/' path.toList).filter fun part => !part.isEmpty && part ≠ ['.']).map String.ofList

/-- The slashes that open a path: two stay two, and any other number is one. -/
def pathRoot (path : String) : String :=
  match (path.toList.takeWhile (· = '/')).length with
  | 0 => ""
  | 2 => "//"
  | _ => "/"

/-- A path in its plain form; the empty path is the working folder. -/
def plainPath (path : String) : String :=
  let plain := pathRoot path ++ String.intercalate "/" (pathParts path)
  if plain.isEmpty then "." else plain

/-- The files below a working folder, each with the parts of its path. -/
structure Folder where
  files : List (List String × List UInt8)

namespace Folder

def ofFiles (files : List (String × List UInt8)) : Folder where
  files := files.map fun (path, bytes) => (pathParts path, bytes)

inductive Place where
  /-- The working folder or one below it. -/
  | folder (parts : List String)
  | file (bytes : List UInt8)
  /-- Any other folder, by its path from the root. -/
  | outside (parts : List String)

def home : List String := ["tmp"]

/-- The folders that are found on every system, by the folder that holds them. -/
def systemFolders : List (List String × List String) := [
  ([], ["boot", "dev", "etc", "home", "media", "mnt", "opt", "proc", "root", "run", "srv",
    "sys", "tmp", "usr", "var"]),
  (["dev"], ["pts", "shm"]),
  (["proc"], ["1", "self", "sys"]),
  (["usr"], ["bin", "include", "lib", "local", "sbin", "share", "src"]),
  (["usr", "local"], ["bin", "lib", "sbin", "share"]),
  (["var"], ["cache", "lib", "log", "mail", "opt", "spool", "tmp"])]

/-- Names that lead to a folder elsewhere. -/
def systemLinks : List (List String × List String) := [
  (["bin"], ["usr", "bin"]), (["lib"], ["usr", "lib"]), (["sbin"], ["usr", "sbin"]),
  (["var", "run"], ["run"])]

/-- The most bytes that a part of a path may have. -/
def partLimit : Nat := 255

/-- The most bytes that a path may have. -/
def pathLimit : Nat := 4095

def enter (folder : Folder) (place : Place) (part : String) : Except FileFault Place :=
  match place with
  | .file _ => .error .notFolder
  | .folder parts =>
      let next := parts ++ [part]
      match folder.files.lookup next with
      | some bytes => .ok (.file bytes)
      | none =>
          if folder.files.any fun (path, _) => next.isPrefixOf path then
            .ok (.folder next)
          else
            .error .notFound
  | .outside parts =>
      let next := parts ++ [part]
      if next = ["dev", "null"] then
        .ok (.file [])
      else if let some folder := systemLinks.lookup next then
        .ok (.outside folder)
      else if (systemFolders.lookup parts).any (·.contains part) then
        .ok (.outside next)
      else
        .error .notFound

/-- The folder that holds a place; the root holds itself. -/
def leave (place : Place) : Except FileFault Place :=
  match place with
  | .file _ => .error .notFolder
  | .folder parts => .ok (if parts.isEmpty then .outside home else .folder parts.dropLast)
  | .outside parts => .ok (.outside parts.dropLast)

/-- One step along a path. Only a folder minds the length of a name. -/
def step (folder : Folder) (place : Place) (part : String) : Except FileFault Place :=
  if part = ".." then
    leave place
  else
    match place with
    | .file _ => .error .notFolder
    | _ => if partLimit < part.utf8ByteSize then .error .nameTooLong else folder.enter place part

def read (folder : Folder) (path : String) : Except FileFault (List UInt8) := do
  if pathLimit < path.utf8ByteSize then
    throw .nameTooLong
  let start : Place := if (pathRoot path).isEmpty then .folder [] else .outside []
  match ← (pathParts path).foldlM folder.step start with
  | .file bytes => return bytes
  | _ => throw .isFolder

end Folder

end StaticDispatch.CommandLine
