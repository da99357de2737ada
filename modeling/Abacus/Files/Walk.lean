/-
Module: Abacus.Files.Walk
Purpose: How a path leads to a place: name by name, through directories only, following links up
  to a fixed number of them. Files are read by their paths.
Main exports: Fault, Tree.walk, Tree.locate, Tree.read, Tree.isFile
-/
import Abacus.Files.Tree
import Abacus.Text.Quoted

namespace Abacus.Files

/-- Why a path cannot be used. -/
inductive Fault where
  | notFound
  | notDirectory
  | isDirectory
  | nameTooLong
  | tooManyLinks
  /-- The path holds the character with number zero. -/
  | nul
deriving DecidableEq, Repr, Inhabited

/-- The number that an operating system gives to a fault, and its words; a path with the
character zero does not reach it. -/
def Fault.code? : Fault → Option (Nat × String)
  | notFound => some (2, "No such file or directory")
  | notDirectory => some (20, "Not a directory")
  | isDirectory => some (21, "Is a directory")
  | nameTooLong => some (36, "File name too long")
  | tooManyLinks => some (40, "Too many levels of symbolic links")
  | nul => none

/-- The message on a fault of a path. -/
def Fault.message (fault : Fault) (path : String) : String :=
  match fault.code? with
  | some (code, words) => s!"[Errno {code}] {words}: {Text.quoted path}"
  | none => "embedded null byte"

/-- How many links are followed on one walk. -/
def maxLinks : Nat :=
  40

/-- How many bytes a name may have. -/
def maxName : Nat :=
  255

/-- How many bytes a path may not have. -/
def pathLimit : Nat :=
  4096

/-- Whether a name is too long to be looked up in a directory. -/
def isLongName (name : String) : Bool :=
  maxName < name.utf8ByteSize

/-- Whether a path is too long to be looked up. -/
def isLongPath (path : String) : Bool :=
  pathLimit ≤ path.utf8ByteSize

namespace Tree

/-- Walks on from a place. Names may be followed only from a directory; an empty name and a dot
stay, two dots go up, and the root is above itself. -/
def walk (tree : Tree) (links : Nat) (here : Place) (names : List String) :
    Except Fault Place :=
  match names with
  | [] => .ok here
  | name :: rest =>
      if ¬tree.isDirectory here then .error .notDirectory
      else if name = "" ∨ name = "." then tree.walk links here rest
      else if name = ".." then tree.walk links here.dropLast rest
      else if isLongName name then .error .nameTooLong
      else
        match tree.entry? (here ++ [name]) with
        | none => .error .notFound
        | some (.link target) =>
            match links with
            | 0 => .error .tooManyLinks
            | links + 1 =>
                tree.walk links (if isAbsolute target then [] else here)
                  (Files.names target ++ rest)
        | some _ => tree.walk links (here ++ [name]) rest
termination_by (links, names.length)

/-- The place that a path leads to. -/
def locate (tree : Tree) (path : String) : Except Fault Place :=
  if '\x00' ∈ path.toList then .error .nul
  else if path = "" then .error .notFound
  else if isLongPath path then .error .nameTooLong
  else tree.walk maxLinks (tree.origin path) (names path)

/-- The bytes of the file that a path leads to. -/
def read (tree : Tree) (path : String) : Except Fault (List UInt8) := do
  let place ← tree.locate path
  match tree.entry? place with
  | some (.file bytes) => .ok bytes
  | some _ => .error .isDirectory
  | none => .error .notFound

/-- Whether a path leads to a file. Only a name that is too long is a fault here. -/
def isFile (tree : Tree) (path : String) : Except Fault Bool :=
  match tree.locate path with
  | .ok place =>
      match tree.entry? place with
      | some (.file _) => .ok true
      | _ => .ok false
  | .error .nameTooLong => .error .nameTooLong
  | .error _ => .ok false

end Tree

end Abacus.Files
