/-
Module: Abacus.Proofs.TreeAgreement
Purpose: Trees that differ only in what files outside of a directory hold. Paths lead to the same
  places in both and are refused for the same faults, since neither the walk nor the resolver looks
  into a file; and what stands inside of the directory is the same.
Main exports: Tree.AgreesInside, AgreesInside.entry?_cases, AgreesInside.settle,
  AgreesInside.locate, AgreesInside.resolve, AgreesInside.isFile, AgreesInside.read
-/
import Mathlib.Data.List.Forall2
import Abacus.Proofs.LocatedPlaces

namespace Abacus.Files

/-- A place lies outside of a directory; without a directory every place does. -/
def Outside (directory : Option Place) (place : Place) : Prop :=
  ∀ inside : Place, directory = some inside → ¬ inside <+: place

/-- Two entries stand at the same place, and they are the same, or files outside of the
    directory. -/
def SameEntry (directory : Option Place) (first second : Place × Entry) : Prop :=
  first.1 = second.1 ∧
    (first.2 = second.2 ∨
      Outside directory first.1 ∧
        ∃ bytes others : List UInt8, first.2 = .file bytes ∧ second.2 = .file others)

namespace Tree

/-- Two trees start from the same place and have the same entries, but for what files outside of
    the directory hold. -/
structure AgreesInside (directory : Option Place) (tree other : Tree) : Prop where
  home : tree.home = other.home
  entries : List.Forall₂ (SameEntry directory) tree.entries other.entries

variable {directory : Option Place}

theorem lookup_cases {first second : List (Place × Entry)}
    (h : List.Forall₂ (SameEntry directory) first second) (place : Place) :
    first.lookup place = second.lookup place ∨
      Outside directory place ∧ ∃ bytes others : List UInt8,
        first.lookup place = some (.file bytes) ∧ second.lookup place = some (.file others) := by
  induction h with
  | nil => exact .inl rfl
  | @cons one two _ _ hentry _ ih =>
      obtain ⟨there, entry⟩ := one
      obtain ⟨same, changed⟩ := two
      obtain ⟨hsame, hcases⟩ := hentry
      cases hsame
      rw [List.lookup_cons, List.lookup_cons]
      cases hplace : place == there with
      | true =>
          rw [eq_of_beq hplace]
          rcases hcases with hequal | ⟨houtside, bytes, others, hfile, hother⟩
          · exact .inl (congrArg some hequal)
          · exact .inr ⟨houtside, bytes, others, congrArg some hfile, congrArg some hother⟩
      | false => exact ih

theorem links_eq {first second : List (Place × Entry)} {home : Place}
    (h : List.Forall₂ (SameEntry directory) first second) :
    links ⟨home, first⟩ = links ⟨home, second⟩ := by
  unfold links
  induction h with
  | nil => rfl
  | @cons one two _ _ hentry _ ih =>
      obtain ⟨there, entry⟩ := one
      obtain ⟨same, changed⟩ := two
      obtain ⟨hsame, hcases⟩ := hentry
      cases hsame
      rw [List.filterMap_cons, List.filterMap_cons, ih]
      rcases hcases with hequal | ⟨_, bytes, others, hfile, hother⟩
      · cases hequal
        rfl
      · cases hfile
        cases hother
        rfl

variable {tree other : Tree}

namespace AgreesInside

variable (h : AgreesInside directory tree other)

include h

/-- At one place of both trees stands the same, or, outside of the directory, files. -/
theorem entry?_cases (place : Place) :
    tree.entry? place = other.entry? place ∨
      Outside directory place ∧ ∃ bytes others : List UInt8,
        tree.entry? place = some (.file bytes) ∧ other.entry? place = some (.file others) := by
  unfold entry?
  split
  · exact .inl rfl
  · exact lookup_cases h.entries place

theorem links : tree.links = other.links := by
  obtain ⟨home, entries⟩ := tree
  obtain ⟨same, others⟩ := other
  obtain ⟨hhome, hentries⟩ := h
  cases hhome
  exact links_eq hentries

theorem target? (place : Place) : tree.target? place = other.target? place := by
  unfold Tree.target?
  rcases h.entry?_cases place with hsame | ⟨_, bytes, others, hfile, hother⟩
  · rw [hsame]
  · rw [hfile, hother]

theorem isDirectory (place : Place) : tree.isDirectory place = other.isDirectory place := by
  unfold Tree.isDirectory
  rcases h.entry?_cases place with hsame | ⟨_, bytes, others, hfile, hother⟩
  · rw [hsame]
  · rw [hfile, hother]
    rfl

/-- The resolver looks at links only. -/
theorem settle (depth : Nat) (fresh : List Place) (resolved : List (Place × Place))
    (here : Place) (steps : List Step) :
    tree.settle depth fresh resolved here steps =
      other.settle depth fresh resolved here steps := by
  fun_induction tree.settle depth fresh resolved here steps
  case case1 => rw [Tree.settle]
  case case2 ih =>
    rw [ih]
    conv_rhs => rw [Tree.settle]
  case case3 hstay ih => rw [ih, settle_stay hstay]
  case case4 ih => rw [ih, settle_up]
  case case5 hnul => rw [settle_nul hnul]
  case case6 hstay hup hnul next htarget ih =>
    rw [h.target?] at htarget
    rw [ih, settle_enter (isPlain_of_not_stay hstay hup hnul) htarget]
  case case7 hstay hup hnul next target htarget hfresh =>
    rw [h.target?] at htarget
    rw [settle_tooDeep (isPlain_of_not_stay hstay hup hnul) htarget hfresh]
  case case8 hstay hup hnul next target htarget hfresh depth ih =>
    rw [h.target?] at htarget
    rw [settle_fresh (isPlain_of_not_stay hstay hup hnul) htarget hfresh, targetBase,
      List.dropLast_concat]
    exact ih
  case case9 hstay hup hnul next target htarget hfresh place hlookup ih =>
    rw [h.target?] at htarget
    rw [ih, settle_known (isPlain_of_not_stay hstay hup hnul) htarget hfresh hlookup]
  case case10 hstay hup hnul next target htarget hfresh hlookup =>
    rw [h.target?] at htarget
    rw [settle_circle (isPlain_of_not_stay hstay hup hnul) htarget hfresh hlookup]

theorem entry?_of_none {place : Place} (hnone : tree.entry? place = none) :
    other.entry? place = none := by
  rcases h.entry?_cases place with hsame | ⟨_, bytes, others, hfile, _⟩
  · rw [← hsame, hnone]
  · rw [hnone] at hfile
    cases hfile

theorem entry?_of_link {place : Place} {target : String}
    (hlink : tree.entry? place = some (.link target)) :
    other.entry? place = some (.link target) := by
  rcases h.entry?_cases place with hsame | ⟨_, bytes, others, hfile, _⟩
  · rw [← hsame, hlink]
  · rw [hlink] at hfile
    cases hfile

theorem entry?_of_some {place : Place} {entry : Entry} (hsome : tree.entry? place = some entry)
    (hlink : ∀ target : String, entry = .link target → False) :
    ∃ found : Entry, other.entry? place = some found ∧
      ∀ target : String, found = .link target → False := by
  rcases h.entry?_cases place with hsame | ⟨_, bytes, others, _, hother⟩
  · exact ⟨entry, by rw [← hsame, hsome], hlink⟩
  · exact ⟨.file others, hother, nofun⟩

/-- The walk looks at what stands at a place, and not into files. -/
theorem walk (links : Nat) (here : Place) (names : List String) :
    tree.walk links here names = other.walk links here names := by
  -- The two walks stand at the same place all along; only what a file holds may differ, and a walk
  -- never asks for that.
  fun_induction tree.walk links here names
  case case1 => rw [Tree.walk]
  case case2 hdirectory =>
    rw [h.isDirectory] at hdirectory
    rw [Tree.walk, if_pos hdirectory]
  case case3 hdirectory hstay ih =>
    rw [h.isDirectory] at hdirectory
    rw [ih]
    conv_rhs => rw [Tree.walk, if_neg hdirectory, if_pos hstay]
  case case4 hdirectory hstay ih =>
    rw [h.isDirectory] at hdirectory
    rw [ih]
    conv_rhs => rw [Tree.walk, if_neg hdirectory, if_neg hstay, if_pos rfl]
  case case5 hdirectory hstay hup hlong =>
    rw [h.isDirectory] at hdirectory
    rw [Tree.walk, if_neg hdirectory, if_neg hstay, if_neg hup, if_pos hlong]
  case case6 hdirectory hstay hup hshort hentry =>
    rw [h.isDirectory] at hdirectory
    rw [Tree.walk, if_neg hdirectory, if_neg hstay, if_neg hup, if_neg hshort,
      h.entry?_of_none hentry]
  case case7 hdirectory hstay hup hshort target hentry =>
    rw [h.isDirectory] at hdirectory
    rw [Tree.walk, if_neg hdirectory, if_neg hstay, if_neg hup, if_neg hshort,
      h.entry?_of_link hentry]
  case case8 hdirectory hstay hup hshort target hentry links ih =>
    rw [h.isDirectory] at hdirectory
    conv_rhs => rw [Tree.walk, if_neg hdirectory, if_neg hstay, if_neg hup, if_neg hshort,
      h.entry?_of_link hentry]
    exact ih
  case case9 hdirectory hstay hup hshort entry hlink hentry ih =>
    rw [h.isDirectory] at hdirectory
    obtain ⟨found, hfound, hnoLink⟩ := h.entry?_of_some hentry hlink
    conv_rhs => rw [Tree.walk, if_neg hdirectory, if_neg hstay, if_neg hup, if_neg hshort, hfound]
    cases found with
    | link target => exact (hnoLink target rfl).elim
    | file | directory => exact ih

theorem locate (path : String) : tree.locate path = other.locate path := by
  unfold Tree.locate Tree.origin
  rw [h.home, h.walk]

theorem resolve (depth : Nat) (base : Place) (path : String) :
    tree.resolve depth base path = other.resolve depth base path := by
  unfold Tree.resolve
  rw [h.links]
  simp only [h.settle, h.locate]

theorem isFile (path : String) : tree.isFile path = other.isFile path := by
  unfold Tree.isFile
  rw [h.locate]
  cases other.locate path with
  | error fault => cases fault <;> rfl
  | ok place =>
      rcases h.entry?_cases place with hsame | ⟨_, bytes, others, hfile, hother⟩
      · simp only [hsame]
      · simp only [hfile, hother]

/-- A path that leads to a place inside of the directory is read alike in both trees. -/
theorem read {path : String} {inside : Place} (hdirectory : directory = some inside)
    (hinside : ∀ place : Place, tree.locate path = .ok place → inside <+: place) :
    tree.read path = other.read path := by
  unfold Tree.read
  rw [← h.locate]
  cases hlocate : tree.locate path with
  | error fault => rfl
  | ok place =>
      rcases h.entry?_cases place with hsame | ⟨houtside, _⟩
      · simp only [bind, Except.bind, hsame]
      · exact absurd (hinside place hlocate) (houtside inside hdirectory)

end AgreesInside

end Tree

end Abacus.Files
