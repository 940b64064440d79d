/-
# Paths

The text that names a file in a folder: names with slashes between them, each a step from a
folder to something in it.  An empty name and `.` are no steps, so slashes may be doubled and may
stand at the end; `..` is the step to the folder around.  A path with a slash in front starts at
the root instead.  Whoever knows the homes of users may also take a path that begins with `~` to
start at one of them (`user?`).
-/
import Holdings.Text.Split

namespace Holdings

/-- A path: whether it starts at the root, and its steps. -/
structure Path where
  isRooted : Bool
  steps : List String
  deriving DecidableEq, Repr, Inhabited

namespace Path

/-- The path that a text names. -/
def ofText (s : String) : Path :=
  ⟨s.toList.head? = some '/',
    ((Text.split '/' s.toList).filter fun name => name != [] && name != ['.']).map String.ofList⟩

/-- The user at whose home a path starts, if it starts at one; an empty name is the user at hand. -/
def user? (p : Path) : Option String :=
  if p.isRooted then none
  else
    match p.steps.head?.map String.toList with
    | some ('~' :: name) => some (String.ofList name)
    | _ => none

/-- The number of bytes of a path below a folder, a slash before each step. -/
def size (p : Path) : Nat := p.steps.foldl (fun n name => n + name.utf8ByteSize + 1) 0

/-- A path of so many bytes is too long to be followed.  The system takes less than 4096 bytes for the whole path;
the rest of them, seventeen, is the path of the folder that the number was calibrated for. -/
def maxSize : Nat := 4079

/-- The longest name, in bytes, that a file can have: the limit of the system. -/
def maxNameSize : Nat := 255

example : ofText "a//./b/" = ⟨false, ["a", "b"]⟩ := by decide +kernel
example : ofText "/../.a" = ⟨true, ["..", ".a"]⟩ := by decide +kernel

end Path

end Holdings
