/-!
# Files

What a program finds when it looks for a file: nothing, something it cannot read as text, or a text.
A directory held in memory answers this for every path that is relative to it.
-/

namespace SatelliteWindows

/-- What is found under a path. -/
inductive FileState where
  /-- There is nothing. -/
  | absent
  /-- There is something, but no text: a directory, or bytes that encode no text. -/
  | unreadable
  /-- There is a text. -/
  | text (content : String)
  deriving DecidableEq, Repr, Inhabited

/-- Whether there is something. -/
def FileState.isThere : FileState → Bool
  | .absent => false
  | _ => true

/-- The text, if there is one. -/
def FileState.content? : FileState → Option String
  | .text content => some content
  | _ => none

/-- A directory held in memory. -/
structure Directory where
  /-- The files with the names that lead to them, outermost first. -/
  files : List (List String × ByteArray)

namespace Directory

/-- The names of a path; empty names and single dots lead nowhere. -/
def names (path : String) : List String :=
  (path.splitOn "/").filter fun name => !(name.isEmpty || name == ".")

/-- A directory with the given paths. -/
def ofPaths (files : List (String × ByteArray)) : Directory :=
  ⟨files.map fun f => (names f.1, f.2)⟩

/-- The directory with a file under a path, in place of the one that was there. -/
def put (d : Directory) (path : String) (bytes : ByteArray) : Directory :=
  let place := names path
  ⟨(place, bytes) :: d.files.filter fun f => f.1 != place⟩

/-- Whether there is a directory at a place. -/
def isDirectory (d : Directory) (place : List String) : Bool :=
  place.isEmpty || d.files.any fun f => place.length < f.1.length && place.isPrefixOf f.1

/-- Whether a file stands where a directory would have to be on the way to a place. -/
def isBlocked (d : Directory) (place : List String) : Bool :=
  d.files.any fun f => f.1.length < place.length && f.1.isPrefixOf place

/-- The bytes of the file at a place. -/
def bytes? (d : Directory) (place : List String) : Option ByteArray := d.files.lookup place

/-- The place that names lead to from a directory, if every step on the way starts in a directory
and none leads out of the whole. -/
def walk (d : Directory) : List String → List String → Option (List String)
  | [], place => some place
  | name :: rest, place =>
    if !d.isDirectory place then none
    else if name == ".." then
      if place.isEmpty then none else walk d rest place.dropLast
    else walk d rest (place ++ [name])

/-- What is found at a place. -/
def stateAt (d : Directory) (place : List String) : FileState :=
  if d.isDirectory place then .unreadable
  else match d.bytes? place with
    | none => .absent
    | some bytes =>
      match String.fromUTF8? bytes with
      | some content => .text content
      | none => .unreadable

/-- Whether a path asks for a directory: nothing, or a single dot, comes behind its last slash. -/
def asksDirectory (path : String) : Bool :=
  match (path.splitOn "/").getLast? with
  | some name => name.isEmpty || name == "."
  | none => false

/-- What is found under a path. A path that asks for a directory cannot be that of a file. -/
def look (d : Directory) (path : String) : FileState :=
  if path.isEmpty || path.startsWith "/" then .absent
  else match d.walk (names path) [] with
    | none => .absent
    | some place =>
      match d.stateAt place with
      | .text content => if asksDirectory path then .absent else .text content
      | state => state

end Directory

end SatelliteWindows
