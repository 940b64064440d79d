/-
# Loading schemas

A library reads schemas from the files of a folder and keeps what it has read: a name that
was loaded once gives the same object ever after, whatever becomes of its file.  A name that was
not depends on its file as it is now, and a load that fails leaves the library as it was, so a
file that is mended loads the next time.

`load_of_loaded` and `load_of_error` state these rules; the others follow from `load` itself.

A desk answers requests: to load a schema, and to change files.  The files are those of the library,
unless the library has a folder that nobody may change; then they lie in a folder beside it.
-/
import Holdings.Document.Reader
import Holdings.Document.Schema
import Holdings.Folder
import Holdings.Tagged

namespace Holdings.Document

/-! ## 1. Libraries -/

/-- A folder and what has been loaded from it. -/
structure Library where
  folder : Folder
  loaded : List (String × Tagged Document)
  /-- The number of the next object. -/
  nextTag : Nat
  deriving Inhabited

namespace Library

/-- A library from which nothing has been loaded; it needs a folder. -/
def ofFolder (folder : Option Folder) : Except Fault Library :=
  match folder with
  | some f => .ok ⟨f, [], 0⟩
  | none => .error .noDirectory

/-- The schema in the file of a name. -/
def readFile (l : Library) (name : String) : Except Fault Document := do
  let v ← read (← l.folder.read (name ++ ".json"))
  checkSchema name v
  return v

/-- The library with one more schema. -/
def keep (l : Library) (name : String) (v : Document) : Library :=
  { l with loaded := (name, ⟨l.nextTag, v⟩) :: l.loaded, nextTag := l.nextTag + 1 }

/-- The schema of a name: the one that was loaded before, else the one in the file. -/
def load (l : Library) (name : String) : Except Fault (Tagged Document) × Library :=
  match l.loaded.lookup name with
  | some d => (.ok d, l)
  | none =>
    match l.readFile name with
    | .ok v => (.ok ⟨l.nextTag, v⟩, l.keep name v)
    | .error f => (.error f, l)

theorem load_of_loaded {l : Library} {name : String} {d : Tagged Document}
    (h : l.loaded.lookup name = some d) : l.load name = (.ok d, l) := by
  simp [load, h]

theorem load_of_error {l : Library} {name : String} {f : Fault}
    (h : (l.load name).1 = .error f) : (l.load name).2 = l := by
  unfold load at h ⊢
  split
  · rfl
  · split <;> simp_all

/-- The library with another folder, everything loaded being kept. -/
def inFolder (l : Library) (f : Folder) : Library := { l with folder := f }

end Library

/-! ## 2. Requests -/

/-- What is asked of a library, or done to the files. -/
inductive Request where
  | load (name : String)
  | write (file text : String)
  | delete (file : String)
  deriving DecidableEq, Repr, Inhabited

/-- The answer to a request. -/
inductive Answer where
  | done
  /-- A schema, and whether it is the very object that was handed out last under its name. -/
  | schema (document : Document) (isLast : Bool)
  deriving Inhabited

/-- A library, the folder beside it if there is one, and the number of the object handed out last
under each name. -/
structure Desk where
  library : Library
  beside : Option Folder
  handedOut : List (String × Nat)
  deriving Inhabited

namespace Desk

/-- The desk of a library from which nothing has been handed out. -/
def ofLibrary (l : Library) (beside : Option Folder) : Desk := ⟨l, beside, []⟩

/-- The folder whose files are changed. -/
def files (k : Desk) : Folder := k.beside.getD k.library.folder

/-- The desk after a change of files, which may fail. -/
def change (k : Desk) : Except Fault Folder → Except Fault Answer × Desk
  | .error e => (.error e, k)
  | .ok f =>
    (.ok .done,
      match k.beside with
      | some _ => { k with beside := some f }
      | none => { k with library := k.library.inFolder f })

/-- The answer to a request, and the desk behind it. -/
def serve (k : Desk) : Request → Except Fault Answer × Desk
  | .load name =>
    match k.library.load name with
    | (.ok d, l) =>
      (.ok (.schema d.val (k.handedOut.lookup name = some d.tag)),
        { k with library := l, handedOut := Value.putEntry name d.tag k.handedOut })
    | (.error f, l) => (.error f, { k with library := l })
  | .write file content => k.change (k.files.write file content)
  | .delete file => k.change (k.files.remove file)

/-- The answers to requests, one after the other. -/
def serveAll (k : Desk) : List Request → List (Except Fault Answer)
  | [] => []
  | r :: rs => (k.serve r).1 :: (k.serve r).2.serveAll rs

/-- The desk after requests. -/
def after (k : Desk) (rs : List Request) : Desk := rs.foldl (fun k r => (k.serve r).2) k

end Desk

end Holdings.Document
