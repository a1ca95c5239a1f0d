import Resilience.Dict
import Resilience.Text.Split
import Resilience.Text.Utf8
/-! # Files

The files below a working directory, by their paths. A directory exists if it was made or if
something lies in it. Reading gives bytes or text; only files of valid text can be read as text.
-/
namespace Resilience

/-- What a path holds. Bytes are kept apart from text where they are no UTF-8. -/
inductive FileContent where
  | text (s : String)
  | bytes (bs : List UInt8)
  | directory
deriving DecidableEq, Repr, Inhabited

namespace FileContent

def ofBytes (bs : List UInt8) : FileContent := (Text.decode? bs).elim (.bytes bs) .text

/-- The characters of a content, bytes that are none replaced. -/
def chars (substitute : List Char) : FileContent → List Char
  | .text s => s.toList
  | .bytes bs => Text.decodeWith substitute bs
  | .directory => []

end FileContent

inductive FileError where
  | notFound
  | isDirectory
  | notDirectory
  | notText
deriving DecidableEq, Repr

def FileError.message : FileError → String
  | .notFound => "No such file or directory (os error 2)"
  | .isDirectory => "Is a directory (os error 21)"
  | .notDirectory => "Not a directory (os error 20)"
  | .notText => "stream did not contain valid UTF-8"

structure Files where
  entries : Dict (List String) FileContent
deriving DecidableEq, Repr, Inhabited

namespace Files

def rootPart : String := "/"

/-- The place above. Nothing is above the root, and what is above the working directory is named
by dots. -/
def above (place : List String) : List String :=
  match place.getLast? with
  | none => [".."]
  | some part =>
    if part = rootPart then place
    else if part = ".." then place ++ [".."]
    else place.dropLast

/-- Parts of a path followed from a place; `..` leads to the place above. -/
def follow : List String → List String → List String
  | place, [] => place
  | place, part :: parts =>
    if part = "" ∨ part = "." then follow place parts
    else if part = ".." then follow (above place) parts
    else follow (place ++ [part]) parts

/-- The place that a path leads to, unless it is empty. -/
def place? (path : String) : Option (List String) :=
  if path = "" then none
  else some (follow (if path.startsWith "/" then [rootPart] else []) (Text.split '/' path))

def holdsSomething (fs : Files) (place : List String) : Bool :=
  fs.entries.any fun e => place.isPrefixOf e.1 && e.1 ≠ place

def at? (fs : Files) (place : List String) : Option FileContent :=
  match Dict.find? fs.entries place with
  | some content => some content
  | none => if place = [] ∨ fs.holdsSomething place then some .directory else none

def liesUnderFile (fs : Files) (place : List String) : Bool :=
  (List.range place.length).any fun n =>
    match Dict.find? fs.entries (place.take n) with
    | none | some .directory => false
    | some _ => true

def absence (fs : Files) (place : List String) : FileError :=
  if fs.liesUnderFile place then .notDirectory else .notFound

/-- What a path holds. A path that ends in a slash names a directory. -/
def get? (fs : Files) (path : String) : Except FileError FileContent :=
  match place? path with
  | none => .error .notFound
  | some place =>
    match fs.at? place with
    | none => .error (fs.absence place)
    | some .directory => .ok .directory
    | some content => if path.endsWith "/" then .error .notDirectory else .ok content

def has (fs : Files) (path : String) : Bool :=
  match fs.get? path with
  | .ok _ => true
  | .error _ => false

def isFile (fs : Files) (path : String) : Bool :=
  match fs.get? path with
  | .ok .directory | .error _ => false
  | .ok _ => true

def read (fs : Files) (path : String) : Except FileError FileContent :=
  match fs.get? path with
  | .ok .directory => .error .isDirectory
  | other => other

def readText (fs : Files) (path : String) : Except FileError String :=
  match fs.read path with
  | .ok (.text s) => .ok s
  | .ok _ => .error .notText
  | .error e => .error e

def filesIn (fs : Files) (path : String) : Except FileError (List String) :=
  match fs.get? path with
  | .error e => .error e
  | .ok .directory =>
    let place := (place? path).getD []
    .ok (fs.entries.filterMap fun e =>
      match e.2 with
      | .directory => none
      | _ => if e.1.dropLast = place then e.1.getLast? else none)
  | .ok _ => .error .notDirectory

/-- Writes a text. The directory of the file has to exist, and a path that ends in a slash names no
file. -/
def write (fs : Files) (path s : String) : Except FileError Files :=
  match place? path with
  | none => .error .notFound
  | some place =>
    match fs.at? place with
    | some .directory => .error .isDirectory
    | some _ =>
      if path.endsWith "/" then .error .notDirectory
      else .ok ⟨Dict.insert fs.entries place (.text s)⟩
    | none =>
      match fs.at? place.dropLast with
      | some .directory =>
        if path.endsWith "/" then .error .isDirectory
        else .ok ⟨Dict.insert fs.entries place (.text s)⟩
      | some _ => .error .notDirectory
      | none => .error (fs.absence place)

def put (fs : Files) (path : String) (content : FileContent) : Files :=
  match place? path with
  | none => fs
  | some place => ⟨Dict.insert fs.entries place content⟩

def remove (fs : Files) (path : String) : Files :=
  match place? path with
  | none => fs
  | some place =>
    let rest := Dict.erase fs.entries place
    match place.dropLast with
    | [] => ⟨rest⟩
    | parent => ⟨Dict.insert rest parent .directory⟩

def empty : Files := ⟨[]⟩

theorem readText_write {fs after : Files} {path s : String} (h : fs.write path s = .ok after) :
    after.readText path = .ok s := by
  unfold write at h
  cases hp : place? path with
  | none => simp [hp] at h
  | some place =>
    have read : ∀ entries : Files, entries = ⟨Dict.insert fs.entries place (.text s)⟩ →
        path.endsWith "/" = false → entries.readText path = .ok s := by
      rintro _ rfl hd
      simp [readText, Files.read, get?, hp, at?, hd]
    simp only [hp] at h
    split at h
    · simp at h
    · split at h
      · simp at h
      · exact read after (by simpa using h.symm) (by simp_all)
    · split at h
      · split at h
        · simp at h
        · exact read after (by simpa using h.symm) (by simp_all)
      · simp at h
      · simp at h

end Files

namespace Path

def fileName (path : String) : String :=
  (Text.cutLast? '/' path).elim path Prod.snd

/-- A file's name without its extension. A dot at the start begins no extension. -/
def stem (name : String) : String :=
  match Text.cutLast? '.' name with
  | some (front, _) => if front = "" then name else front
  | none => name

def extension? (name : String) : Option String :=
  match Text.cutLast? '.' name with
  | some (front, back) => if front = "" then none else some back
  | none => none

def join (dir name : String) : String :=
  if name.startsWith "/" ∨ dir = "" then name
  else if dir.endsWith "/" then dir ++ name else dir ++ "/" ++ name

end Path
end Resilience
