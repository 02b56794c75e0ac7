import Conformance.Settings.Load

/-!
# A directory of files

A directory holds files and directories. A path is followed from segment to segment:
empty ones and single dots stay where they are, double dots go back, and each step needs
a directory to start from. Double dots also lead out of the directory, where nothing is
found but what was written there. Paths of 4096 bytes and more cannot be followed, nor
can one that is empty, starts at the root or holds a null character. When a file is
written, the directories that its path walks through are made, also those it walks out
of again.
-/

namespace Conformance

/-- The contents of a directory and of those around it. A place is told by the segments of the
shortest way to it. -/
structure Disk where
  directories : List (List String)
  files : List (List String × ByteArray)

namespace Disk

/-- The directory without contents. -/
def empty : Disk := ⟨[], []⟩

/-- Whether a place is the directory itself or one around it. -/
def isAround (place : List String) : Bool := place.all (· = "..")

/-- Whether there is a directory at a place. -/
def isDirectory (disk : Disk) (place : List String) : Bool :=
  isAround place || disk.directories.contains place

/-- The place to which a segment leads. -/
def step (place : List String) (segment : String) : List String :=
  if segment = "" || segment = "." then place
  else if segment = ".." && !isAround place then place.dropLast
  else place ++ [segment]

/-- Follows segments from a place in the directory. -/
def follow (disk : Disk) (place : List String) : List String → Option (List String)
  | [] => some place
  | segment :: rest =>
    if disk.isDirectory place then disk.follow (step place segment) rest else none

/-- The file that was written last at a place. -/
def file? (disk : Disk) (place : List String) : Option ByteArray :=
  (disk.files.reverse.find? fun (written, _) => written = place).map (·.2)

/-- The greatest number of bytes of a path that can be followed. -/
def maxPathBytes : Nat := 4095

/-- The file at the end of a path. -/
def contents? (disk : Disk) (path : String) : Option ByteArray :=
  if path.isEmpty || maxPathBytes < path.utf8ByteSize || path.toList.any (· = '\x00') ||
      path.toList.head? = some '/' then none
  else (disk.follow [] (Text.split '/' path)).bind disk.file?

/-- Reads the file at the end of a path. All names in the directory are texts, so a path that is
none leads nowhere. What the system says of a path that leads to no file is given. -/
def read (disk : Disk) (complaint : NativeText → String) : FileSystem := fun path =>
  ((path.text?.bind disk.contents?).map Except.ok).getD (.error (complaint path))

/-- Writes a file under the segments of a path, followed from a place in the directory. -/
def writeFrom (disk : Disk) (place : List String) (bytes : ByteArray) : List String → Disk
  | [] => disk
  | [name] => { disk with files := disk.files ++ [(place ++ [name], bytes)] }
  | segment :: rest =>
    let next := step place segment
    { disk with directories := next :: disk.directories }.writeFrom next bytes rest

/-- Writes a file under a path. -/
def write (disk : Disk) (path : String) (bytes : ByteArray) : Disk :=
  disk.writeFrom [] bytes (Text.split '/' path)

/-- The directory into which files were written under paths, one after the other. -/
def ofFiles (files : List (String × ByteArray)) : Disk :=
  files.foldl (fun disk (path, bytes) => disk.write path bytes) empty

end Disk

end Conformance
