import VirtualRouter.Config.File

/-!
The disk that a trial of the daemon runs on: one file that may be there, the directories above it, and what every
system has. The name of a file is a way from the root, or from the directory that the daemon runs in. A way through
what is no directory leads to nothing that can be read, and a way through what is not there leads to a missing file.
-/

namespace VirtualRouter.Bench

/-- What is in one place of a disk. -/
inductive DiskEntry where
  | nothing
  | directory
  | file (bytes : ByteArray)

/-- A disk with a file of settings. -/
structure Disk where
  /-- The way to the file from the root. -/
  place : List String := ["tmp", "trial", "vrnd.toml"]
  contents : Option ByteArray := none

namespace Disk

/-- The directories that every system has. -/
def systemDirectories : List (List String) :=
  [["bin"], ["dev"], ["etc"], ["home"], ["lib"], ["opt"], ["proc"], ["root"], ["run"], ["sys"], ["tmp"], ["usr"],
    ["var"]]

/-- The file that is always empty. -/
def emptyFile : List String := ["dev", "null"]

/-- The directory that the daemon runs in. -/
def workingDirectory : List String := ["work"]

/-- The length of the longest name of one step, in bytes. -/
def longestStep : Nat := 255

/-- The length of the longest name of a file, in bytes. -/
def longestName : Nat := 4095

/-- The name of the file of settings. -/
def name (d : Disk) : String := "/" ++ "/".intercalate d.place

/-- What is in a place. -/
def entry (d : Disk) (place : List String) : DiskEntry :=
  if place = d.place then (d.contents.map .file).getD .nothing
  else if place = emptyFile then .file .empty
  else if place.isPrefixOf d.place ∨ place.isPrefixOf workingDirectory ∨ place ∈ systemDirectories then .directory
  else .nothing

/-- What is found on a way from a directory. -/
def walk (d : Disk) : List String → List String → FileState
  | _, [] => .unreadable
  | here, step :: rest =>
    if step = "" ∨ step = "." then d.walk here rest
    else if step = ".." then d.walk here.dropLast rest
    else if longestStep < step.utf8ByteSize then .unreadable
    else match d.entry (here ++ [step]) with
      | .nothing => .missing
      | .directory => d.walk (here ++ [step]) rest
      | .file bytes => if rest.isEmpty then .contents bytes else .unreadable

/-- What is found under the name of a file. -/
def find (d : Disk) (name : String) : FileState :=
  if longestName < name.utf8ByteSize then .unreadable
  else match name.toList.splitOn '/' |>.map String.ofList with
    | "" :: steps => d.walk [] steps
    | steps => d.walk workingDirectory steps

end Disk

end VirtualRouter.Bench
