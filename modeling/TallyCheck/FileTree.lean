import TallyCheck.Text.Decoding

/-! # Files

What can prevent a file from being read, and a tree of files held in memory.  A path is followed
one component at a time; whatever a component is looked up in must be a directory.
-/
namespace TallyCheck
set_option autoImplicit false

inductive ReadFailure where
  | notFound | notADirectory | isADirectory | nameTooLong | notText
  deriving DecidableEq

def ReadFailure.message : ReadFailure → String
  | .notFound => "No such file or directory (os error 2)"
  | .notADirectory => "Not a directory (os error 20)"
  | .isADirectory => "Is a directory (os error 21)"
  | .nameTooLong => "File name too long (os error 36)"
  | .notText => "stream did not contain valid UTF-8"

abbrev Files := String → Except ReadFailure ByteArray

def Files.readText (files : Files) (path : String) : Except ReadFailure String :=
  match files path with
  | .error failure => .error failure
  | .ok bytes =>
    match Text.decode? bytes with
    | some text => .ok text
    | none => .error .notText

inductive FileEntry where
  | file (bytes : ByteArray)
  | directory

/-- The entries of a directory, each under its path from there.  A directory need not be listed if
something in it is. -/
structure FileTree where
  entries : List (List String × FileEntry)

namespace FileTree

def components (path : String) : List String := path.splitOn "/"

def ofList (entries : List (String × FileEntry)) : FileTree :=
  ⟨entries.map fun entry => (components entry.1, entry.2)⟩

/-- The place of everything outside the tree, where only directories above it are known. -/
def outside : List String := [".."]

def entry? (tree : FileTree) (place : List String) : Option FileEntry :=
  if place = [] ∨ place = outside then some .directory
  else
    match tree.entries.lookup place with
    | some entry => some entry
    | none =>
      if tree.entries.any fun entry => place.isPrefixOf entry.1 then some .directory else none

def parent (place : List String) : List String :=
  if place = [] ∨ place = outside then outside else place.dropLast

/-- The longest name, in bytes, that a directory can hold. -/
def maxNameSize : Nat := 255

/-- The longest path, in bytes, that can be followed. -/
def maxPathSize : Nat := 4095

def follow (tree : FileTree) (place : List String) : List String → Except ReadFailure FileEntry
  | [] =>
    match tree.entry? place with
    | some entry => .ok entry
    | none => .error .notFound
  | name :: names =>
    match tree.entry? place with
    | none => .error .notFound
    | some (.file _) => .error .notADirectory
    | some .directory =>
      if name = "" ∨ name = "." then tree.follow place names
      else if name = ".." then tree.follow (parent place) names
      else if maxNameSize < name.utf8ByteSize then .error .nameTooLong
      else tree.follow (place ++ [name]) names

/-- The entry at a path, which starts outside the tree if it starts with a slash. -/
def find (tree : FileTree) (path : String) : Except ReadFailure FileEntry :=
  if path = "" then .error .notFound
  else if maxPathSize < path.utf8ByteSize then .error .nameTooLong
  else
    match components path with
    | "" :: names => tree.follow outside names
    | names => tree.follow [] names

def read (tree : FileTree) : Files := fun path =>
  match tree.find path with
  | .error failure => .error failure
  | .ok .directory => .error .isADirectory
  | .ok (.file bytes) => .ok bytes

end FileTree
end TallyCheck
