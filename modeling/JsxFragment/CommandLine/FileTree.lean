import JsxFragment.CommandLine.Path
import JsxFragment.Text.Quoted

/-!
Files and directories, as far as the command line has to know them: what can be read, what can be
written, and why not.
-/

namespace JsxFragment.CommandLine

/-- Why a file cannot be read or written. -/
inductive FileFault where
  | notFound
  | notADirectory
  | isADirectory
  | nameTooLong
  /-- Any other reason, with its number and its words. -/
  | other (number : Nat) (reason : String)
  deriving DecidableEq, Repr

namespace FileFault

/-- The number of the fault. -/
def number : FileFault → Nat
  | .notFound => 2
  | .notADirectory => 20
  | .isADirectory => 21
  | .nameTooLong => 36
  | .other number _ => number

/-- The reason in words. -/
def reason : FileFault → String
  | .notFound => "No such file or directory"
  | .notADirectory => "Not a directory"
  | .isADirectory => "Is a directory"
  | .nameTooLong => "File name too long"
  | .other _ reason => reason

/-- The fault of a path, in words. -/
def message (fault : FileFault) (path : Path) : String :=
  "[Errno " ++ toString fault.number ++ "] " ++ fault.reason ++ ": " ++ Text.quoted path.text

end FileFault

/-- What stands at a path. -/
inductive Entry where
  | file (bytes : List UInt8)
  | directory
  deriving DecidableEq, Repr

/-- The files and directories below the one where the program runs, each by the steps to it. -/
abbrev FileTree : Type :=
  List (List String × Entry)

namespace FileTree

/-- What stands at the end of some steps. A directory need not be listed if something in it is. -/
def find? (tree : FileTree) (steps : List String) : Option Entry :=
  match tree.lookup steps with
  | some entry => some entry
  | none =>
    if tree.any fun listed => steps.isPrefixOf listed.1 && steps.length < listed.1.length then
      some .directory
    else none

/-- The directories that every system has, each by the steps to it from the root. -/
def systemDirectories : List (List String) :=
  let top :=
    ["bin", "boot", "dev", "etc", "home", "lib", "media", "mnt", "opt", "proc", "root", "run",
     "sbin", "srv", "sys", "tmp", "usr", "var"]
  [] :: top.map (fun name => [name])
    ++ ["bin", "include", "lib", "local", "sbin", "share", "src"].map fun name => ["usr", name]

/-- The steps to the device that is always empty. -/
def nullDevice : List String :=
  ["dev", "null"]

/-- Where a walk along a path has come to. -/
inductive Place where
  | directory (steps : List String)
  | file (steps : List String) (bytes : List UInt8)
  /-- At a name that nothing has, in a directory. -/
  | missing (steps : List String)
  /-- In a directory above the one where the program runs. -/
  | above
  /-- In a directory of the system, by the steps to it from the root. -/
  | system (steps : List String)
  /-- At the device that is always empty and takes whatever is written. -/
  | nullDevice
  /-- At any other name outside the directory where the program runs. -/
  | beyond

/-- The most bytes that the name of a file may have. -/
def maxNameBytes : Nat :=
  255

/-- The most bytes that a path may have. -/
def maxPathBytes : Nat :=
  4095

/-- One step of a walk. -/
def advance (tree : FileTree) (place : Place) (step : String) : Except FileFault Place :=
  match place with
  | .file _ _ | .nullDevice => .error .notADirectory
  | .missing _ | .beyond => .error .notFound
  | .above =>
    if step = ".." then .ok .above
    else if maxNameBytes < step.utf8ByteSize then .error .nameTooLong
    else .ok .beyond
  | .system steps =>
    if step = ".." then .ok (.system steps.dropLast)
    else if maxNameBytes < step.utf8ByteSize then .error .nameTooLong
    else
      let steps := steps ++ [step]
      if steps = FileTree.nullDevice then .ok .nullDevice
      else if systemDirectories.contains steps then .ok (.system steps)
      else .ok .beyond
  | .directory steps =>
    if step = ".." then
      .ok (if steps.isEmpty then .above else .directory steps.dropLast)
    else if maxNameBytes < step.utf8ByteSize then .error .nameTooLong
    else
      let steps := steps ++ [step]
      match tree.find? steps with
      | some (.file bytes) => .ok (.file steps bytes)
      | some .directory => .ok (.directory steps)
      | none => .ok (.missing steps)

/-- Walks along several steps. -/
def walk (tree : FileTree) (place : Place) : List String → Except FileFault Place
  | [] => .ok place
  | step :: rest =>
    match tree.advance place step with
    | .error fault => .error fault
    | .ok next => tree.walk next rest

/-- Where a path leads. -/
def resolve (tree : FileTree) (path : Path) : Except FileFault Place :=
  if maxPathBytes < path.text.utf8ByteSize then .error .nameTooLong
  else tree.walk (if path.root = "" then .directory [] else .system []) path.steps

/-- The bytes of the file at a path. -/
def read (tree : FileTree) (path : Path) : Except FileFault (List UInt8) :=
  match tree.resolve path with
  | .error fault => .error fault
  | .ok (.file _ bytes) => .ok bytes
  | .ok .nullDevice => .ok []
  | .ok (.missing _) | .ok .beyond => .error .notFound
  | .ok _ => .error .isADirectory

/-- The tree with a file in it that holds these bytes. -/
def put (tree : FileTree) (steps : List String) (bytes : List UInt8) : FileTree :=
  (steps, .file bytes) :: tree.filter fun listed => listed.1 ≠ steps

/-- The tree after a text has been written to the file at a path, whether it was there or not. A
file outside the directory where the program runs is no part of the tree. -/
def write (tree : FileTree) (path : Path) (text : String) : Except FileFault FileTree :=
  match tree.resolve path with
  | .error fault => .error fault
  | .ok (.file steps _) => .ok (tree.put steps text.toUTF8.toList)
  | .ok (.missing steps) => .ok (tree.put steps text.toUTF8.toList)
  | .ok .beyond | .ok .nullDevice => .ok tree
  | .ok _ => .error .isADirectory

/-- The files of a tree that another tree does not have, or has with other bytes. -/
def changes (before after : FileTree) : List (List String × List UInt8) :=
  after.filterMap fun listed =>
    match listed.2 with
    | .directory => none
    | .file bytes =>
      if before.lookup listed.1 = some (.file bytes) then none else some (listed.1, bytes)

end FileTree

end JsxFragment.CommandLine
