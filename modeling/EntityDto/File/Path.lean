import EntityDto.Text.Basic

/-! Paths of files, in a form without empty and dot components. -/

namespace EntityDto

open Text

/-- A path: the slashes it starts from, none for a relative path, and its components. -/
structure Path where
  root : Text
  parts : List Text
  deriving DecidableEq

namespace Path

/-- The component that leads to the enclosing directory. -/
def up : Text := "..".toList

/-- The root of a path: two slashes at its start stay two, any other number counts as one. -/
def rootOf (text : Text) : Text :=
  match (text.takeWhile (· = '/')).length with
  | 0 => []
  | 2 => ['/', '/']
  | _ => ['/']

/-- Reads a path; empty components and single dots are left out, double dots stay. -/
def ofText (text : Text) : Path where
  root := rootOf text
  parts := (splitWhere (· = '/') text).filter fun part => !part.isEmpty && part ≠ ['.']

/-- Writes a path; the relative path without components is a dot. -/
def text (path : Path) : Text :=
  if path.root.isEmpty && path.parts.isEmpty then ['.'] else path.root ++ join ['/'] path.parts

/-- The path that leads from here along another path, which replaces this one if it has a root. -/
def append (path other : Path) : Path :=
  if other.root.isEmpty then ⟨path.root, path.parts ++ other.parts⟩ else other

/-- The path without its last component. -/
def parent (path : Path) : Path :=
  ⟨path.root, path.parts.dropLast⟩

/-- The paths on the way to a path, from its root on, the path itself being the last. -/
def stations (path : Path) : List Path :=
  (List.range (path.parts.length + 1)).map fun count => ⟨path.root, path.parts.take count⟩

end Path

end EntityDto
