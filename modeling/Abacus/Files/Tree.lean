/-
Module: Abacus.Files.Tree
Purpose: A tree of files: directories, files with their bytes, and symbolic links. A place in it
  is the list of names on the way from the root.
Main exports: Place, Entry, Tree, Tree.ofFiles
-/
import Abacus.Text.Pieces

namespace Abacus.Files

/-- A place, by the names on the way from the root. -/
abbrev Place :=
  List String

/-- The text of a place. -/
def Place.text (place : Place) : String :=
  "/" ++ "/".intercalate place

/-- What stands at a place. -/
inductive Entry where
  | file (bytes : List UInt8)
  | directory
  | link (target : String)
deriving DecidableEq, Repr, Inhabited

/-- A tree with the directory that relative paths start from. -/
structure Tree where
  home : Place
  entries : List (Place × Entry)
deriving DecidableEq, Repr, Inhabited

/-- The names of a path, as they are written: empty ones for doubled and outer slashes. -/
def names (path : String) : List String :=
  (Text.pieces '/' path.toList).map String.ofList

/-- Whether a path starts from the root. -/
def isAbsolute (path : String) : Bool :=
  path.toList.head? == some '/'

namespace Tree

/-- What stands at a place, not followed if it is a link. -/
def entry? (tree : Tree) (place : Place) : Option Entry :=
  if place = [] then some .directory else tree.entries.lookup place

/-- Whether a directory stands at a place. -/
def isDirectory (tree : Tree) (place : Place) : Bool :=
  tree.entry? place == some .directory

/-- Where the walk along a path starts. -/
def origin (tree : Tree) (path : String) : Place :=
  if isAbsolute path then [] else tree.home

/-- The places of all links. -/
def links (tree : Tree) : List Place :=
  tree.entries.filterMap fun (place, entry) =>
    match entry with
    | .link _ => some place
    | _ => none

/-- The tree with an entry set. -/
def put (tree : Tree) (place : Place) (entry : Entry) : Tree :=
  { tree with entries := (place, entry) :: tree.entries.filter (·.1 ≠ place) }

/-- The tree with a directory at a place where nothing stands. -/
def ensureDirectory (tree : Tree) (place : Place) : Tree :=
  if (tree.entry? place).isSome then tree else tree.put place .directory

/-- The tree with directories on the way to a place. -/
def ensureParents (tree : Tree) (place : Place) : Tree :=
  (List.range place.length).foldl (fun tree n => tree.ensureDirectory (place.take n)) tree

/-- The tree with an entry at a path that is relative to the starting directory. -/
def add (tree : Tree) (path : String) (entry : Entry) : Tree :=
  let place := tree.home ++ (names path).filter fun name => name ≠ "" ∧ name ≠ "."
  let tree := tree.ensureParents place
  match entry with
  | .directory => tree.ensureDirectory place
  | _ => tree.put place entry

/-- The tree that holds the given entries in its starting directory. -/
def ofFiles (home : Place) (files : List (String × Entry)) : Tree :=
  let base : Tree := ⟨home, []⟩
  let base := (base.ensureParents home).ensureDirectory home
  files.foldl (fun tree file => tree.add file.1 file.2) base

end Tree

end Abacus.Files
