import Formulary.CommandLine.Run

/-!
# A folder in memory

A folder holds files with their contents. It stands for the working directory of a run, so that a
run is a function. There are folders above it, up to a topmost one, and none inside of it.

* `folder.resolve path`: what the path leads to.
* `folder.read path`, `folder.write path content`: the file at the path.
* `action.runIn folder`: the report of the action, and the folder after it.
-/

namespace Formulary.CommandLine

/-- Files with their contents. A file in a folder above has a name that begins with the way to
it, `../` for each step up or `/` for the topmost folder. -/
structure Folder where
  files : List (String × ByteArray)

namespace Folder

/-! ## 1. Files -/

/-- There are no files. -/
def empty : Folder :=
  ⟨[]⟩

/-- The content of the file with the name. -/
def content? (folder : Folder) (name : String) : Option ByteArray :=
  (folder.files.find? (·.1 == name)).map (·.2)

/-- The file with the name has this content and no other file changes. -/
def put (folder : Folder) (name : String) (content : ByteArray) : Folder :=
  ⟨(name, content) :: folder.files.filter (·.1 != name)⟩

/-! ## 2. Paths -/

/-- What a path leads to. -/
inductive Target
  /-- A file, which need not be there. -/
  | file (name : String)
  /-- A file by a path that ends in a slash, as if it were a folder. -/
  | fileAsFolder (name : String)
  | folder
deriving DecidableEq, Repr

/-- The most bytes that a part of a path may have. -/
def maxPartSize : Nat := 255

/-- The most bytes that a path may have. -/
def maxPathSize : Nat := 4095

/-- The way to the folder above the one that `way` leads to. Above the topmost folder there is no
other. -/
def above (way : String) : String :=
  if way = "/" then way else "../" ++ way

/-- What the parts lead to from the folder that `way` leads to. A part `.` stays where it is, and
`..` goes up. Any other part names a file, so no part may follow it. -/
def walk (files : Folder) (way : String) : List String → Except FileError Target
  | [] => .ok .folder
  | part :: rest =>
    if part = "" || part = "." then files.walk way rest
    else if part = ".." then files.walk (above way) rest
    else if maxPartSize < part.utf8ByteSize then .error .nameTooLong
    else if rest.all (· = "") then
      .ok (if rest = [] then .file (way ++ part) else .fileAsFolder (way ++ part))
    else if (files.content? (way ++ part)).isSome then .error .notDirectory
    else .error .notFound

/-- The text between the slashes of the path. -/
def parts (path : String) : List String :=
  (path.toList.splitOn '/').map String.ofList

/-- What the path leads to. -/
def resolve (files : Folder) (path : String) : Except FileError Target :=
  if path = "" then .error .notFound
  else if maxPathSize < path.utf8ByteSize then .error .nameTooLong
  else files.walk (if path.toList.head? = some '/' then "/" else "") (parts path)

example : empty.resolve "./a//../b" matches .error .notFound := by decide +kernel

example : empty.resolve ".././/b" matches .ok (.file "../b") := by decide +kernel

example : empty.resolve "b/" matches .ok (.fileAsFolder "b") := by decide +kernel

/-- What reading the path gives. -/
def read (files : Folder) (path : String) : Except FileError ByteArray := do
  match ← files.resolve path with
  | .folder => throw .isDirectory
  | .file name =>
    match files.content? name with
    | some content => return content
    | none => throw .notFound
  | .fileAsFolder name => throw (if (files.content? name).isSome then .notDirectory else .notFound)

/-- The folder after writing to the path, if that can be done. -/
def write (files : Folder) (path : String) (content : ByteArray) : Except FileError Folder := do
  match ← files.resolve path with
  | .file name => return files.put name content
  | .fileAsFolder _ | .folder => throw .isDirectory

end Folder

/-! ## 3. Runs -/

/-- The report of the action in the folder, and the folder after it. -/
def Action.runIn (folder : Folder) : Action → Report × Folder
  | finish report => (report, folder)
  | read path next => (next (folder.read path)).runIn folder
  | write path text next =>
    match folder.write path text.toUTF8 with
    | .ok folder => (next (.ok ())).runIn folder
    | .error error => (next (.error error)).runIn folder

/-- The reports of runs with these arguments one after another, and the folder after them. -/
def runAll (folder : Folder) : List (List String) → List Report × Folder
  | [] => ([], folder)
  | args :: rest =>
    let (report, folder) := (run args).runIn folder
    let (reports, folder) := runAll folder rest
    (report :: reports, folder)

end Formulary.CommandLine
