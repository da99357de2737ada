/-
Module: Abacus.Files.Resolve
Purpose: The place a path names once all links on it are resolved, whether or not anything stands
  there. Two dots take away the last name of the place reached so far. Links that lead in a
  circle leave the rest of the path as it is written, and the result is looked at once more. A link
  is not found at a place that is too long to be looked up.
Main exports: Step, ResolveFault, Tree.target?, Tree.settle, Tree.resolve
-/
import Abacus.Files.Walk

namespace Abacus.Files

/-- What is left to do: a name to follow, or a link to note as resolved to the place reached. -/
inductive Step where
  | name (text : String)
  | resolved (link : Place)
deriving DecidableEq, Repr, Inhabited

/-- A place followed by a name as it is written, without a look at what stands there. -/
def follow (here : Place) (name : String) : Place :=
  if name = "" ∨ name = "." then here
  else if name = ".." then here.dropLast
  else here ++ [name]

/-- Whether the rest of a target, cut off behind a slash, starts with another slash. It is taken
from the root then. -/
def startsAtRoot : List Step → Bool
  | .name "" :: .name _ :: _ => true
  | _ => false

/-- The place that the steps left lead to as they are written. -/
def followAll (here : Place) : List Step → Place
  | [] => here
  | .name name :: rest => followAll (follow here name) rest
  | .resolved _ :: rest => followAll (if startsAtRoot rest then [] else here) rest

/-- The place where a circle of links is left, from the link that closes it. -/
def leaveCircle (link : Place) (rest : List Step) : Place :=
  followAll (if startsAtRoot rest then [] else link) rest

/-- Why a path has no resolved place. -/
inductive ResolveFault where
  | nul
  /-- Links lead through links more deeply than they are followed. -/
  | tooDeep
  /-- The place leads through links without an end. -/
  | loop (place : Place)
deriving DecidableEq, Repr, Inhabited

/-- The words for a fault. -/
def ResolveFault.message : ResolveFault → String
  | nul => Fault.nul.message ""
  | tooDeep => "maximum recursion depth exceeded"
  | loop place => s!"Symlink loop from {Text.quoted place.text}"

/-- Whether a place is too long to be looked up, as a whole or for one of its names. -/
def Place.isLong (place : Place) : Bool :=
  isLongPath place.text || place.any isLongName

namespace Tree

/-- The target of the link that is found at a place. At a place that is too long none is. -/
def target? (tree : Tree) (place : Place) : Option String :=
  if place.isLong then none
  else
    match tree.entry? place with
    | some (.link target) => some target
    | _ => none

/-- Resolves the steps that are left from the place reached. Each link is entered once, as long
as it is among the fresh ones; a link met again is taken from those resolved, and one that is
still being resolved closes a circle. Links are entered inside of each other as deep as `depth`. -/
def settle (tree : Tree) (depth : Nat) (fresh : List Place) (resolved : List (Place × Place))
    (here : Place) (steps : List Step) : Except ResolveFault Place :=
  match steps with
  | [] => .ok here
  | .resolved link :: rest => tree.settle (depth + 1) fresh ((link, here) :: resolved) here rest
  | .name name :: rest =>
      if name = "" ∨ name = "." then tree.settle depth fresh resolved here rest
      else if name = ".." then tree.settle depth fresh resolved here.dropLast rest
      else if '\x00' ∈ name.toList then .error .nul
      else
        let next := here ++ [name]
        match tree.target? next with
        | none => tree.settle depth fresh resolved next rest
        | some target =>
            if _h : next ∈ fresh then
              match depth with
              | 0 => .error .tooDeep
              | depth + 1 =>
                  tree.settle depth (fresh.erase next) resolved
                    (if isAbsolute target then [] else here)
                    ((names target).map .name ++ .resolved next :: rest)
            else
              match resolved.lookup next with
              | some place => tree.settle depth fresh resolved place rest
              | none => .ok (leaveCircle next rest)
termination_by (fresh.length, steps.length)
decreasing_by
  all_goals simp_wf
  · exact .right _ (by omega)
  · exact .right _ (by omega)
  · exact .right _ (by omega)
  · exact .right _ (by omega)
  · refine .left _ _ ?_
    have := List.length_pos_of_mem _h
    rw [List.length_erase_of_mem _h]
    omega
  · exact .right _ (by omega)

end Tree

/-- The resolved place of a path that is taken from a given place. Links are followed inside of each
other as deep as `depth`. -/
def Tree.resolve (tree : Tree) (depth : Nat) (base : Place) (path : String) :
    Except ResolveFault Place := do
  let origin := if isAbsolute path then [] else base
  let written := (names path).filter fun name => name ≠ "" ∧ name ≠ "."
  let place ← tree.settle depth tree.links [] [] ((origin ++ written).map Step.name)
  match tree.locate place.text with
  | .error .nul => .error .nul
  | .error .tooManyLinks => .error (.loop place)
  | _ => .ok place

end Abacus.Files
