/-
# Folders

A folder with files, and what can be told of the folders around it: how they are called, as far as
that is known, and which files have been put there.  A path is followed from the folder step by
step (`Spot.step`).  A step leads on from a folder only: nothing lies within a file or beyond a
name that is vacant.

A file can be put where a path ends at a file or at a vacant name, and be removed where it
ends at a file.  No folder is ever made.
-/
import Holdings.Fault
import Holdings.Path

namespace Holdings

/-! ## 1. Places -/

/-- Where a folder lies, seen from the one at hand. -/
inductive Level where
  /-- So many folders around it; none is the folder itself. -/
  | around (n : Nat)
  | root
  deriving DecidableEq, Repr, Inhabited

/-- The folder around another; around the root is the root. -/
def Level.up : Level → Level
  | around n => around (n + 1)
  | root => root

/-- A name in a folder. -/
structure Place where
  level : Level
  name : String
  deriving DecidableEq, Repr, Inhabited

/-- A folder and what is known around it. -/
structure Folder where
  /-- The names of the folder itself and of those around it, as far as they are known. -/
  names : List String
  files : List (Place × String)
  deriving DecidableEq, Repr, Inhabited

/-- What a path can lead to. -/
inductive Spot where
  | folder (level : Level)
  | file (place : Place) (text : String)
  | vacant (place : Place)
  deriving DecidableEq, Repr, Inhabited

namespace Folder

/-- A folder without files, of which nothing else is known. -/
def empty : Folder := ⟨[], []⟩

/-! ## 2. Following a path -/

/-- The folder that lies under a name in one around it. -/
def within? (f : Folder) : Level → String → Option Level
  | .around (n + 1), name => if f.names[n]? = some name then some (.around n) else none
  | _, _ => none

/-- What lies at a place. -/
def spot (f : Folder) (p : Place) : Spot :=
  match f.within? p.level p.name with
  | some l => .folder l
  | none =>
    match f.files.lookup p with
    | some text => .file p text
    | none => .vacant p

/-- One step on a path. -/
def step (f : Folder) : Spot → String → Except Fault Spot
  | .vacant _, _ => .error .noFile
  | .file .., _ => .error .notFolder
  | .folder l, name =>
    if name = ".." then .ok (.folder l.up)
    else if Path.maxNameSize < name.utf8ByteSize then .error .badName
    else .ok (f.spot ⟨l, name⟩)

/-- What a path leads to. -/
def follow (f : Folder) (path : String) : Except Fault Spot :=
  let p := Path.ofText path
  if path.toList.contains '\x00' then .error (.refused .zeroCharacter)
  else if Path.maxSize ≤ p.size then .error .badName
  else p.steps.foldlM f.step (.folder (if p.isRooted then .root else .around 0))

/-! ## 3. Files -/

/-- The text of a file.  Where a path does not lead to anything, whatever keeps it from that, there is
no file. -/
def read (f : Folder) (path : String) : Except Fault String :=
  match f.follow path with
  | .ok (.file _ text) => .ok text
  | .ok (.folder _) => .error .isFolder
  | .ok (.vacant _) => .error .noFile
  | .error .badName => .error .badName
  | .error _ => .error .noFile

/-- The folder with a text in a file. -/
def write (f : Folder) (path text : String) : Except Fault Folder :=
  match f.follow path with
  | .ok (.file p _) => .ok { f with files := Value.putEntry p text f.files }
  | .ok (.vacant p) => .ok { f with files := Value.putEntry p text f.files }
  | .ok (.folder _) => .error .isFolder
  | .error e => .error e

/-- The folder without a file that is there. -/
def remove (f : Folder) (path : String) : Except Fault Folder :=
  match f.follow path with
  | .ok (.file p _) => .ok { f with files := f.files.filter fun e => e.1 != p }
  | .ok (.vacant _) => .error .noFile
  | .ok (.folder _) => .error .isFolder
  | .error e => .error e

/-- A folder with these files. -/
def ofFiles (files : List (String × String)) : Except Fault Folder :=
  files.foldlM (fun f e => f.write e.1 e.2) empty

end Folder

end Holdings
