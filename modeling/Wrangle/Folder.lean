import Wrangle.Outcome

/-!
# Folders

A folder holds directories and files.  Paths are taken relative to it: their
parts are followed one by one, and each of them but the last leads to a
directory.  What lies outside of the folder is not there.
-/

namespace Wrangle

/-!
# Paths
-/

def pathParts : List Char -> List (List Char)
  | [] => [[]]
  | c :: rest =>
      if c == '/' then [] :: pathParts rest
      else
        match pathParts rest with
        | [] => [[c]]
        | part :: parts => (c :: part) :: parts

def isHere (part : List Char) : Bool :=
  part.isEmpty || part == ['.']

def fileName (path : String) : List Char :=
  ((pathParts path.toList).filter fun part => !isHere part).getLastD []

/-- The end of a name from its last dot on, unless the dot is its first or last character. -/
def suffixOf (name : List Char) : List Char :=
  let after := (name.reverse.takeWhile fun c => c != '.').reverse
  if after.isEmpty || name.length <= after.length + 1 then [] else '.' :: after

/-- A path without its last part; nothing is left when it has only one. -/
def parentPath (path : String) : String :=
  let head := path.toList.reverse.dropWhile fun c => c != '/'
  let trimmed := head.dropWhile fun c => c == '/'
  String.ofList (if trimmed.isEmpty then head.reverse else trimmed.reverse)

/-!
# Contents
-/

/-- A place in a folder: the names that lead to it. -/
abbrev Place := List (List Char)

/-- What is found in a place. -/
inductive Entry where
  | directory
  | file (bytes : ByteArray)

structure Folder where
  directories : List Place
  files : List (Place × ByteArray)

namespace Folder

instance : Inhabited Folder := ⟨{ directories := [], files := [] }⟩

def empty : Folder :=
  { directories := [], files := [] }

def hasDirectory (folder : Folder) (place : Place) : Bool :=
  place.isEmpty || folder.directories.contains place

def follow (folder : Folder) (place : Place) (part : List Char) : Option Place :=
  if !folder.hasDirectory place then none
  else if isHere part then some place
  else if part == ['.', '.'] then (if place.isEmpty then none else some place.dropLast)
  else some (place ++ [part])

def placeOf (folder : Folder) (path : String) : Option Place :=
  if path.isEmpty || path.startsWith "/" then none
  else (pathParts path.toList).foldlM folder.follow []

def find (folder : Folder) (path : String) : Option Entry :=
  (folder.placeOf path).bind fun place =>
    if folder.hasDirectory place then some .directory
    else (folder.files.lookup place).map .file

def isDirectory (folder : Folder) (path : String) : Bool :=
  folder.find path matches some .directory

def addDirectory (folder : Folder) (path : String) : Folder :=
  let parts := (pathParts path.toList).filter fun part => !isHere part
  let places := (List.range parts.length).map fun i => parts.take (i + 1)
  { folder with directories := folder.directories ++ places }

def write (folder : Folder) (path : String) (bytes : ByteArray) : Except Fault Folder :=
  match folder.placeOf path with
  | none => .error .noSuchFile
  | some place =>
      if folder.hasDirectory place then .error .directoryInPlace
      else .ok { folder with files := (place, bytes) :: folder.files }

theorem find_write {folder after : Folder} {path : String} {bytes : ByteArray}
    (h : folder.write path bytes = .ok after) : after.find path = some (.file bytes) := by
  unfold write at h
  split at h
  · simp at h
  · rename_i place found
    split at h
    · simp at h
    · rename_i absent
      injection h with h
      subst h
      have same : placeOf { folder with files := (place, bytes) :: folder.files } path =
          folder.placeOf path := rfl
      have still : hasDirectory { folder with files := (place, bytes) :: folder.files } place =
          folder.hasDirectory place := rfl
      simp [find, same, found, still, absent]

end Folder
end Wrangle
