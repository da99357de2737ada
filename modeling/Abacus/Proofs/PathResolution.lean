/-
Module: Abacus.Proofs.PathResolution
Purpose: What it means for a path to lead to a place, and that the resolver finds that place. A
  link leads on to where its target leads. The resolver enters each link once and keeps a table of
  those it has left; where the path leads somewhere, it never meets a link that it is still inside
  of, and it finds the place unless links are nested deeper than it enters them. On the way to the
  place found, no link is found.
Main exports: Tree.Resolves, Resolves.deterministic, Tree.LinksLead, LinksResolve.resolves,
  Tree.Clear, Resolves.clear, settle_deeper, settle_of_resolves, eq_of_settle_of_resolves,
  settle_error_of_nul, LinksLead.resolves_of_settle
-/
import Mathlib.Data.List.Basic
import Mathlib.Data.Nat.Find
import Abacus.Files.Resolve

namespace Abacus.Files

/-! ### Where paths lead -/

/-- A name that stands for something in a directory: it is not empty, neither one dot nor two, and
    the character zero is not in it. -/
structure IsPlain (name : String) : Prop where
  filled : name ≠ ""
  notDot : name ≠ "."
  notDots : name ≠ ".."
  noNul : '\x00' ∉ name.toList

theorem IsPlain.not_stay {name : String} (h : IsPlain name) : ¬(name = "" ∨ name = ".") :=
  not_or.mpr ⟨h.filled, h.notDot⟩

theorem isPlain_of_not_stay {name : String} (hstay : ¬(name = "" ∨ name = "."))
    (hup : name ≠ "..") (hnul : '\x00' ∉ name.toList) : IsPlain name :=
  ⟨(not_or.mp hstay).1, (not_or.mp hstay).2, hup, hnul⟩

/-- The place that the target of a link is taken from: the root, or the directory of the link. -/
def targetBase (link : Place) (target : String) : Place :=
  if isAbsolute target then [] else link.dropLast

namespace Tree

/-- From one place, names lead to another, with links inside of links as deep as `depth`. Behind a
    link, names lead on from the place that its target leads to; a link is found only at a place
    that is not too long. -/
inductive Resolves (tree : Tree) : (depth : Nat) → Place → List String → Place → Prop where
  | done {depth : Nat} {here : Place} : Resolves tree depth here [] here
  | stay {depth : Nat} {here place : Place} {name : String} {rest : List String}
      (hname : name = "" ∨ name = ".") (hrest : Resolves tree depth here rest place) :
      Resolves tree depth here (name :: rest) place
  | up {depth : Nat} {here place : Place} {rest : List String}
      (hrest : Resolves tree depth here.dropLast rest place) :
      Resolves tree depth here (".." :: rest) place
  | enter {depth : Nat} {here place : Place} {name : String} {rest : List String}
      (hname : IsPlain name) (htarget : tree.target? (here ++ [name]) = none)
      (hrest : Resolves tree depth (here ++ [name]) rest place) :
      Resolves tree depth here (name :: rest) place
  | link {depth : Nat} {here there place : Place} {name target : String} {rest : List String}
      (hname : IsPlain name) (htarget : tree.target? (here ++ [name]) = some target)
      (hlink : Resolves tree depth (targetBase (here ++ [name]) target) (names target) there)
      (hrest : Resolves tree (depth + 1) there rest place) :
      Resolves tree (depth + 1) here (name :: rest) place

/-- The target of a link leads to a place. -/
def LinkResolves (tree : Tree) (depth : Nat) (link there : Place) : Prop :=
  ∃ target : String, tree.target? link = some target ∧
    tree.Resolves depth (targetBase link target) (names target) there

variable {tree : Tree}

/-- A path leads to one place at most. -/
theorem Resolves.deterministic {depth other : Nat} {here first second : Place}
    {path : List String} (hfirst : tree.Resolves depth here path first)
    (hsecond : tree.Resolves other here path second) : first = second := by
  induction hfirst generalizing other second with
  | done =>
      cases hsecond
      rfl
  | stay hname _ ih =>
      cases hsecond with
      | stay _ hrest => exact ih hrest
      | up => simp at hname
      | enter hplain | link hplain => exact absurd hname hplain.not_stay
  | up _ ih =>
      cases hsecond with
      | stay hname => simp at hname
      | up hrest => exact ih hrest
      | enter hplain | link hplain => exact absurd rfl hplain.notDots
  | enter hplain htarget _ ih =>
      cases hsecond with
      | stay hname => exact absurd hname hplain.not_stay
      | up => exact absurd rfl hplain.notDots
      | enter _ _ hrest => exact ih hrest
      | link _ hother =>
          rw [htarget] at hother
          cases hother
  | link hplain htarget _ _ ihlink ihrest =>
      cases hsecond with
      | stay hname => exact absurd hname hplain.not_stay
      | up => exact absurd rfl hplain.notDots
      | enter _ hother =>
          rw [htarget] at hother
          cases hother
      | link _ hother hlink hrest =>
          rw [htarget] at hother
          cases hother
          cases ihlink hlink
          exact ihrest hrest

theorem LinkResolves.deterministic {depth other : Nat} {link first second : Place}
    (hfirst : tree.LinkResolves depth link first) (hsecond : tree.LinkResolves other link second) :
    first = second := by
  obtain ⟨target, htarget, hfirst⟩ := hfirst
  obtain ⟨same, hsame, hsecond⟩ := hsecond
  rw [htarget] at hsame
  cases hsame
  exact hfirst.deterministic hsecond

/-! ### Trees without circles -/

theorem Resolves.mono {depth deeper : Nat} {here place : Place} {path : List String}
    (h : tree.Resolves depth here path place) (hle : depth ≤ deeper) :
    tree.Resolves deeper here path place := by
  induction h generalizing deeper with
  | done => exact .done
  | stay hname _ ih => exact .stay hname (ih hle)
  | up _ ih => exact .up (ih hle)
  | enter hname htarget _ ih => exact .enter hname htarget (ih hle)
  | link hname htarget _ _ ihlink ihrest =>
      obtain ⟨deeper, rfl⟩ := Nat.exists_eq_add_of_le' (Nat.le_trans (Nat.succ_pos _) hle)
      exact .link hname htarget (ihlink (Nat.le_of_succ_le_succ hle)) (ihrest hle)

/-- Each link that is found leads somewhere. -/
def LinksLead (tree : Tree) : Prop :=
  ∀ (link : Place) (target : String), tree.target? link = some target →
    ∃ (depth : Nat) (there : Place), tree.LinkResolves depth link there

/-- All links of the tree lead somewhere, with links inside of them as deep as `depth`. -/
def LinksResolve (tree : Tree) (depth : Nat) : Prop :=
  ∀ (link : Place) (target : String), tree.target? link = some target →
    ∃ there : Place, tree.LinkResolves depth link there

/-- If all links lead somewhere, then so does every path without the character zero. -/
theorem LinksResolve.resolves {depth : Nat} (h : tree.LinksResolve depth) (here : Place)
    {path : List String} (hnul : ∀ name ∈ path, '\x00' ∉ name.toList) :
    ∃ place : Place, tree.Resolves (depth + 1) here path place := by
  induction path generalizing here with
  | nil => exact ⟨here, .done⟩
  | cons name rest ih =>
      obtain ⟨hfirst, hrest⟩ := List.forall_mem_cons.mp hnul
      by_cases hstay : name = "" ∨ name = "."
      · obtain ⟨place, hplace⟩ := ih here hrest
        exact ⟨place, .stay hstay hplace⟩
      by_cases hup : name = ".."
      · obtain ⟨place, hplace⟩ := ih here.dropLast hrest
        rw [hup]
        exact ⟨place, .up hplace⟩
      have hplain : IsPlain name := isPlain_of_not_stay hstay hup hfirst
      cases htarget : tree.target? (here ++ [name]) with
      | none =>
          obtain ⟨place, hplace⟩ := ih (here ++ [name]) hrest
          exact ⟨place, .enter hplain htarget hplace⟩
      | some target =>
          obtain ⟨there, same, hsame, hlink⟩ := h _ target htarget
          rw [htarget] at hsame
          cases hsame
          obtain ⟨place, hplace⟩ := ih there hrest
          exact ⟨place, .link hplain htarget hlink hplace⟩

/-! ### Places before which no link is found -/

/-- No link is found on the way to a place, nor at the place. -/
def Clear (tree : Tree) (place : Place) : Prop :=
  ∀ reached : Place, reached <+: place → tree.target? reached = none

theorem clear_nil : tree.Clear [] := by
  rintro reached hreached
  rw [List.prefix_nil.mp hreached]
  unfold target?
  split <;> rfl

theorem Clear.dropLast {place : Place} (h : tree.Clear place) :
    tree.Clear place.dropLast :=
  fun reached hreached => h reached (hreached.trans (List.dropLast_prefix place))

theorem Clear.enter {here : Place} {name : String} (h : tree.Clear here)
    (htarget : tree.target? (here ++ [name]) = none) : tree.Clear (here ++ [name]) := by
  intro reached hreached
  rcases List.prefix_concat_iff.mp hreached with rfl | hbefore
  · exact htarget
  · exact h reached hbefore

/-- From a place before which no link is found, a path leads to such a place. -/
theorem Resolves.clear {depth : Nat} {here place : Place} {path : List String}
    (h : tree.Resolves depth here path place) (hhere : tree.Clear here) :
    tree.Clear place := by
  induction h with
  | done => exact hhere
  | stay _ _ ih => exact ih hhere
  | up _ ih => exact ih hhere.dropLast
  | enter _ htarget _ ih => exact ih (hhere.enter htarget)
  | @link _ here _ _ name target _ _ _ _ _ ihlink ihrest =>
      have hbase : tree.Clear (targetBase (here ++ [name]) target) := by
        unfold targetBase
        split
        · exact clear_nil
        · rw [List.dropLast_concat]
          exact hhere
      exact ihrest (ihlink hbase)

/-! ### The resolver -/

/-- The resolver can go on from a link: it has not entered the link yet, or it has left it. -/
def Known (fresh : List Place) (resolved : List (Place × Place)) (link : Place) : Prop :=
  link ∈ fresh ∨ ∃ place : Place, resolved.lookup link = some place

/-- Each link in a table stands there with the place that it leads to. -/
def IsTable (tree : Tree) (resolved : List (Place × Place)) : Prop :=
  ∀ link place : Place, resolved.lookup link = some place →
    ∃ depth : Nat, tree.LinkResolves depth link place

/-- All links that lead somewhere with less depth than `depth` are known. -/
def KnownBelow (tree : Tree) (depth : Nat) (fresh : List Place)
    (resolved : List (Place × Place)) : Prop :=
  ∀ (inner : Nat) (link there : Place), inner < depth → tree.LinkResolves inner link there →
    Known fresh resolved link

/-- With links entered as deep as `depth`, the resolver gets from the first steps to a place with
    the second steps left, and knows all links that it knew. -/
def Reaches (tree : Tree) (depth : Nat) (fresh : List Place) (resolved : List (Place × Place))
    (here : Place) (steps : List Step) (place : Place) (rest : List Step) : Prop :=
  ∃ (fresh' : List Place) (resolved' : List (Place × Place)),
    tree.settle depth fresh resolved here steps =
        tree.settle depth fresh' resolved' place rest ∧
      tree.IsTable resolved' ∧
      ∀ link : Place, Known fresh resolved link → Known fresh' resolved' link

/-- The resolver follows every path that leads somewhere with links as deep as `depth`, if it may
    enter links as deep as that. -/
def Follows (tree : Tree) (depth : Nat) : Prop :=
  ∀ (here place : Place) (path : List String), tree.Resolves depth here path place →
    ∀ (deeper : Nat) (fresh : List Place) (resolved : List (Place × Place)) (rest : List Step),
      depth ≤ deeper → tree.KnownBelow depth fresh resolved → tree.IsTable resolved →
        tree.Reaches deeper fresh resolved here (path.map Step.name ++ rest) place rest

section

variable {depth : Nat} {fresh : List Place} {resolved : List (Place × Place)} {here : Place}
  {name : String} {rest : List Step}

theorem settle_stay (hname : name = "" ∨ name = ".") :
    tree.settle depth fresh resolved here (.name name :: rest) =
      tree.settle depth fresh resolved here rest := by
  rw [settle, if_pos hname]

theorem settle_up :
    tree.settle depth fresh resolved here (.name ".." :: rest) =
      tree.settle depth fresh resolved here.dropLast rest := by
  rw [settle, if_neg (by decide), if_pos rfl]

/-- At a name with the character zero the resolver stops. -/
theorem settle_nul (hnul : '\x00' ∈ name.toList) :
    tree.settle depth fresh resolved here (.name name :: rest) = .error .nul := by
  have hstay : ¬(name = "" ∨ name = ".") := by
    rintro (rfl | rfl)
    · cases hnul
    · exact absurd hnul (by decide)
  have hup : name ≠ ".." := by
    rintro rfl
    exact absurd hnul (by decide)
  rw [settle, if_neg hstay, if_neg hup, if_pos hnul]

theorem settle_enter (hname : IsPlain name) (htarget : tree.target? (here ++ [name]) = none) :
    tree.settle depth fresh resolved here (.name name :: rest) =
      tree.settle depth fresh resolved (here ++ [name]) rest := by
  rw [settle, if_neg hname.not_stay, if_neg hname.notDots, if_neg hname.noNul]
  simp only [htarget]

theorem settle_fresh {target : String} (hname : IsPlain name)
    (htarget : tree.target? (here ++ [name]) = some target) (hfresh : here ++ [name] ∈ fresh) :
    tree.settle (depth + 1) fresh resolved here (.name name :: rest) =
      tree.settle depth (fresh.erase (here ++ [name])) resolved
        (targetBase (here ++ [name]) target)
        ((names target).map .name ++ .resolved (here ++ [name]) :: rest) := by
  rw [settle, if_neg hname.not_stay, if_neg hname.notDots, if_neg hname.noNul]
  simp only [htarget, hfresh, dif_pos, targetBase, List.dropLast_concat]

/-- A link that may not be entered any more is refused for that. -/
theorem settle_tooDeep {target : String} (hname : IsPlain name)
    (htarget : tree.target? (here ++ [name]) = some target) (hfresh : here ++ [name] ∈ fresh) :
    tree.settle 0 fresh resolved here (.name name :: rest) = .error .tooDeep := by
  rw [settle, if_neg hname.not_stay, if_neg hname.notDots, if_neg hname.noNul]
  simp only [htarget, hfresh, dif_pos]

theorem settle_known {target : String} {there : Place} (hname : IsPlain name)
    (htarget : tree.target? (here ++ [name]) = some target) (hfresh : here ++ [name] ∉ fresh)
    (hthere : resolved.lookup (here ++ [name]) = some there) :
    tree.settle depth fresh resolved here (.name name :: rest) =
      tree.settle depth fresh resolved there rest := by
  rw [settle, if_neg hname.not_stay, if_neg hname.notDots, if_neg hname.noNul]
  simp only [htarget, hfresh, hthere, dif_neg, not_false_eq_true]

/-- A link that is still being resolved closes a circle. -/
theorem settle_circle {target : String} (hname : IsPlain name)
    (htarget : tree.target? (here ++ [name]) = some target) (hfresh : here ++ [name] ∉ fresh)
    (hopen : resolved.lookup (here ++ [name]) = none) :
    tree.settle depth fresh resolved here (.name name :: rest) =
      .ok (leaveCircle (here ++ [name]) rest) := by
  rw [settle, if_neg hname.not_stay, if_neg hname.notDots, if_neg hname.noNul]
  simp only [htarget, hfresh, hopen, dif_neg, not_false_eq_true]

theorem IsTable.cons {depth : Nat} {link there : Place} (h : tree.IsTable resolved)
    (hlink : tree.LinkResolves depth link there) : tree.IsTable ((link, there) :: resolved) := by
  intro other place hplace
  rw [List.lookup_cons] at hplace
  split at hplace
  · next hsame =>
      cases hplace
      rw [eq_of_beq hsame]
      exact ⟨depth, hlink⟩
  · exact h other place hplace

theorem KnownBelow.mono {depth : Nat} {fresh' : List Place} {resolved' : List (Place × Place)}
    (h : tree.KnownBelow depth fresh resolved)
    (hgrow : ∀ link : Place, Known fresh resolved link → Known fresh' resolved' link) :
    tree.KnownBelow depth fresh' resolved' :=
  fun inner link there hinner hlink => hgrow link (h inner link there hinner hlink)

theorem Reaches.trans {steps middle last : List Step} {there place : Place}
    (hfirst : tree.Reaches depth fresh resolved here steps there middle)
    (hsecond : ∀ (fresh' : List Place) (resolved' : List (Place × Place)),
      (∀ link : Place, Known fresh resolved link → Known fresh' resolved' link) →
        tree.IsTable resolved' → tree.Reaches depth fresh' resolved' there middle place last) :
    tree.Reaches depth fresh resolved here steps place last := by
  obtain ⟨fresh', resolved', hsettle, htable, hgrow⟩ := hfirst
  obtain ⟨fresh'', resolved'', hsettle', htable', hgrow'⟩ := hsecond fresh' resolved' hgrow htable
  exact ⟨fresh'', resolved'', hsettle.trans hsettle', htable',
    fun link hlink => hgrow' link (hgrow link hlink)⟩

/-- A step that moves the resolver and changes nothing of what it knows. -/
theorem Reaches.of_eq {steps : List Step} {there : Place} (htable : tree.IsTable resolved)
    (h : tree.settle depth fresh resolved here steps =
      tree.settle depth fresh resolved there rest) :
    tree.Reaches depth fresh resolved here steps there rest :=
  ⟨fresh, resolved, h, htable, fun _ hlink => hlink⟩

/-- A link that has not been entered is entered with the least depth at which it leads anywhere.
    No link that is followed inside of it leads back to it, since that one leads somewhere with less
    depth, and so it is not missed among the links that are known. -/
theorem reaches_fresh {inner : Nat} {there : Place} (hle : inner ≤ depth)
    (hfollows : ∀ least ≤ inner, tree.Follows least) (hname : IsPlain name)
    (hlink : tree.LinkResolves inner (here ++ [name]) there)
    (hknown : tree.KnownBelow (inner + 1) fresh resolved) (htable : tree.IsTable resolved)
    (hfresh : here ++ [name] ∈ fresh) :
    tree.Reaches (depth + 1) fresh resolved here (.name name :: rest) there rest := by
  classical
  have hsome : ∃ least : Nat, tree.LinkResolves least (here ++ [name]) there := ⟨inner, hlink⟩
  obtain ⟨target, htarget, hpath⟩ := Nat.find_spec hsome
  have hleast : Nat.find hsome ≤ inner := Nat.find_min' hsome hlink
  have hbelow : tree.KnownBelow (Nat.find hsome) (fresh.erase (here ++ [name])) resolved := by
    intro least link place hlt hplace
    have hne : link ≠ here ++ [name] := by
      rintro rfl
      rw [hplace.deterministic hlink] at hplace
      exact Nat.find_min hsome hlt hplace
    rcases hknown least link place (by omega) hplace with hmem | hlookup
    · exact .inl ((List.mem_erase_of_ne hne).mpr hmem)
    · exact .inr hlookup
  obtain ⟨fresh', resolved', hsettle, htable', hgrow⟩ :=
    hfollows _ hleast _ _ _ hpath depth _ resolved (.resolved (here ++ [name]) :: rest)
      (Nat.le_trans hleast hle) hbelow htable
  refine ⟨fresh', (here ++ [name], there) :: resolved', ?_, htable'.cons hlink, ?_⟩
  · rw [settle_fresh hname htarget hfresh, hsettle, settle]
  · intro link hlink
    by_cases hsame : link = here ++ [name]
    · exact .inr ⟨there, by rw [hsame, List.lookup_cons_self]⟩
    · have hkept : Known (fresh.erase (here ++ [name])) resolved link := by
        rcases hlink with hmem | hlookup
        · exact .inl ((List.mem_erase_of_ne hsame).mpr hmem)
        · exact .inr hlookup
      rcases hgrow link hkept with hmem | ⟨place, hplace⟩
      · exact .inl hmem
      · refine .inr ⟨place, ?_⟩
        rw [List.lookup_cons, beq_false_of_ne hsame]
        exact hplace

/-- A link that leads somewhere is entered if it has not been, and taken from the table if it has;
    in between it would be one that is not known. -/
theorem reaches_link {inner : Nat} {there : Place} (hle : inner ≤ depth)
    (hfollows : ∀ least ≤ inner, tree.Follows least) (hname : IsPlain name)
    (hlink : tree.LinkResolves inner (here ++ [name]) there)
    (hknown : tree.KnownBelow (inner + 1) fresh resolved) (htable : tree.IsTable resolved) :
    tree.Reaches (depth + 1) fresh resolved here (.name name :: rest) there rest := by
  by_cases hfresh : here ++ [name] ∈ fresh
  · exact reaches_fresh hle hfollows hname hlink hknown htable hfresh
  · rcases hknown inner _ there (Nat.lt_succ_self inner) hlink with hmem | ⟨place, hplace⟩
    · exact absurd hmem hfresh
    · obtain ⟨other, hother⟩ := htable _ place hplace
      cases hother.deterministic hlink
      obtain ⟨target, htarget, _⟩ := hlink
      exact .of_eq htable (settle_known hname htarget hfresh hplace)

end

/-- The resolver follows every path that leads somewhere. The induction is on the depth of links;
    inside of it, on the way that the path leads. -/
theorem follows (tree : Tree) (depth : Nat) : tree.Follows depth := by
  induction depth using Nat.strong_induction_on with
  | _ limit ih =>
  suffices hways : ∀ (depth : Nat) (here place : Place) (path : List String),
      tree.Resolves depth here path place → depth ≤ limit →
        ∀ (deeper : Nat) (fresh : List Place) (resolved : List (Place × Place))
          (rest : List Step), depth ≤ deeper → tree.KnownBelow depth fresh resolved →
            tree.IsTable resolved →
              tree.Reaches deeper fresh resolved here (path.map Step.name ++ rest) place rest by
    exact fun here place path h => hways limit here place path h (Nat.le_refl limit)
  intro depth here place path h
  induction h with
  | done => exact fun _ deeper fresh resolved rest _ _ htable => .of_eq htable rfl
  | stay hname _ ihrest =>
      intro hle deeper fresh resolved rest hdeeper hknown htable
      exact (Reaches.of_eq htable (settle_stay hname)).trans fun fresh' resolved' hgrow htable' =>
        ihrest hle deeper fresh' resolved' rest hdeeper (hknown.mono hgrow) htable'
  | up _ ihrest =>
      intro hle deeper fresh resolved rest hdeeper hknown htable
      exact (Reaches.of_eq htable settle_up).trans fun fresh' resolved' hgrow htable' =>
        ihrest hle deeper fresh' resolved' rest hdeeper (hknown.mono hgrow) htable'
  | enter hname htarget _ ihrest =>
      intro hle deeper fresh resolved rest hdeeper hknown htable
      exact (Reaches.of_eq htable (settle_enter hname htarget)).trans
        fun fresh' resolved' hgrow htable' =>
          ihrest hle deeper fresh' resolved' rest hdeeper (hknown.mono hgrow) htable'
  | @link inner _ _ _ _ _ _ hname htarget hlink _ _ ihrest =>
      intro hle deeper fresh resolved rest hdeeper hknown htable
      obtain ⟨deeper, rfl⟩ := Nat.exists_eq_add_of_le' (Nat.le_trans (Nat.succ_pos inner) hdeeper)
      have hfollows : ∀ least ≤ inner, tree.Follows least := fun least hleast =>
        ih least (Nat.lt_of_le_of_lt hleast hle)
      exact (reaches_link (Nat.le_of_succ_le_succ hdeeper) hfollows hname ⟨_, htarget, hlink⟩ hknown
        htable).trans fun fresh' resolved' hgrow htable' =>
          ihrest hle (deeper + 1) fresh' resolved' rest hdeeper (hknown.mono hgrow) htable'

/-- With more depth the resolver comes to the same result, unless it is refused for its depth. -/
theorem settle_deeper {depth deeper : Nat} (hle : depth ≤ deeper) (fresh : List Place)
    (resolved : List (Place × Place)) (here : Place) (steps : List Step) :
    tree.settle depth fresh resolved here steps = .error .tooDeep ∨
      tree.settle deeper fresh resolved here steps =
        tree.settle depth fresh resolved here steps := by
  fun_induction tree.settle depth fresh resolved here steps generalizing deeper
  case case1 => exact .inr (by rw [settle])
  case case2 ih =>
    rw [settle]
    exact ih (Nat.succ_le_succ hle)
  case case3 hstay ih =>
    rw [settle_stay hstay]
    exact ih hle
  case case4 ih =>
    rw [settle_up]
    exact ih hle
  case case5 hnul => exact .inr (settle_nul hnul)
  case case6 hstay hup hnul _ htarget ih =>
    rw [settle_enter (isPlain_of_not_stay hstay hup hnul) htarget]
    exact ih hle
  case case7 => exact .inl rfl
  case case8 hstay hup hnul next target htarget hfresh depth ih =>
    obtain ⟨deeper, rfl⟩ := Nat.exists_eq_add_of_le' (Nat.le_trans (Nat.succ_pos depth) hle)
    rw [settle_fresh (isPlain_of_not_stay hstay hup hnul) htarget hfresh, targetBase,
      List.dropLast_concat]
    exact ih (Nat.le_of_succ_le_succ hle)
  case case9 hstay hup hnul next target htarget hfresh place hlookup ih =>
    rw [settle_known (isPlain_of_not_stay hstay hup hnul) htarget hfresh hlookup]
    exact ih hle
  case case10 hstay hup hnul next target htarget hfresh hlookup =>
    exact .inr (settle_circle (isPlain_of_not_stay hstay hup hnul) htarget hfresh hlookup)

/-- A link is found where one stands, at a place that is not too long. -/
theorem target?_eq_some_iff {place : Place} {target : String} :
    tree.target? place = some target ↔
      place.isLong = false ∧ tree.entry? place = some (.link target) := by
  unfold target?
  cases place.isLong with
  | true => simp
  | false =>
      simp only [Bool.false_eq_true, if_false, true_and]
      split
      · next other hentry => simp [hentry]
      · next hentry => simpa using hentry target

theorem mem_links {link : Place} {target : String} (h : tree.target? link = some target) :
    link ∈ tree.links := by
  obtain ⟨_, hentry⟩ := target?_eq_some_iff.mp h
  unfold entry? at hentry
  split at hentry
  · cases hentry
  · obtain ⟨before, after, hentries, _⟩ := List.lookup_eq_some_iff.mp hentry
    refine List.mem_filterMap.mpr ⟨(link, .link target), ?_, rfl⟩
    rw [hentries]
    exact List.mem_append_right before List.mem_cons_self

/-- A tree has finitely many links, so there is a depth that suffices for all of them if there is
    one for each. -/
theorem LinksLead.exists_linksResolve (h : tree.LinksLead) :
    ∃ depth : Nat, tree.LinksResolve depth := by
  have hbound : ∀ links : List Place, ∃ depth : Nat, ∀ link ∈ links, ∀ target : String,
      tree.target? link = some target → ∃ there : Place, tree.LinkResolves depth link there := by
    intro links
    induction links with
    | nil => exact ⟨0, nofun⟩
    | cons link links ih =>
        obtain ⟨depth, hdepth⟩ := ih
        cases htarget : tree.target? link with
        | none =>
            refine ⟨depth, List.forall_mem_cons.mpr ⟨fun target hsome => ?_, hdepth⟩⟩
            rw [htarget] at hsome
            cases hsome
        | some target =>
            obtain ⟨own, there, hthere⟩ := h link target htarget
            refine ⟨max own depth, List.forall_mem_cons.mpr ⟨fun _ _ => ?_, ?_⟩⟩
            · obtain ⟨same, hsame, hpath⟩ := hthere
              exact ⟨there, same, hsame, hpath.mono (Nat.le_max_left own depth)⟩
            · intro other hmem target htarget
              obtain ⟨place, same, hsame, hpath⟩ := hdepth other hmem target htarget
              exact ⟨place, same, hsame, hpath.mono (Nat.le_max_right own depth)⟩
  obtain ⟨depth, hdepth⟩ := hbound tree.links
  exact ⟨depth, fun link target htarget => hdepth link (mem_links htarget) target htarget⟩

theorem knownBelow_links (tree : Tree) (depth : Nat) : tree.KnownBelow depth tree.links [] := by
  rintro inner link there _ ⟨target, htarget, _⟩
  exact .inl (mem_links htarget)

section

variable {depth : Nat} {path : List String} {place : Place}
  (h : tree.Resolves depth [] path place)

include h

/-- The resolver finds the place that a path leads to, if it may enter links as deep as the path
    leads through them; and it does so with all that is left to do behind the path. -/
theorem settle_of_resolves :
    tree.settle depth tree.links [] [] (path.map Step.name) = .ok place := by
  obtain ⟨fresh, resolved, hsettle, _⟩ :=
    follows tree depth [] place path h depth tree.links [] [] (Nat.le_refl depth)
      (tree.knownBelow_links depth) nofun
  rw [List.append_nil] at hsettle
  rw [hsettle, settle]

/-- With any depth, the resolver finds no other place. -/
theorem eq_of_settle_of_resolves {limit : Nat} {found : Place}
    (hfound : tree.settle limit tree.links [] [] (path.map Step.name) = .ok found) :
    found = place := by
  -- As deep as both depths, the resolver finds the place; and what it has found before stays found.
  have hlax := settle_of_resolves (h.mono (Nat.le_max_right limit depth))
  rcases settle_deeper (Nat.le_max_left limit depth) tree.links [] [] (path.map Step.name) with
    hdeep | hsame
  · rw [hdeep] at hfound
    cases hfound
  · rw [hlax, hfound] at hsame
    cases hsame
    rfl

/-- Behind a path that leads somewhere, a name with the character zero stops the resolver. -/
theorem settle_error_of_nul {name : String} (hnul : '\x00' ∈ name.toList) (limit : Nat)
    (rest : List Step) :
    ∃ fault : ResolveFault,
      tree.settle limit tree.links [] [] (path.map Step.name ++ .name name :: rest) =
        .error fault := by
  -- The limit may be too low for the path. As deep as both, the resolver comes to the name.
  have hlax : tree.settle (max limit depth) tree.links [] []
      (path.map Step.name ++ .name name :: rest) = .error .nul := by
    obtain ⟨fresh, resolved, hsettle, _⟩ :=
      follows tree depth [] place path h (max limit depth) tree.links [] (.name name :: rest)
        (Nat.le_max_right limit depth) (tree.knownBelow_links depth) nofun
    rw [hsettle, settle_nul hnul]
  rcases settle_deeper (Nat.le_max_left limit depth) tree.links [] []
    (path.map Step.name ++ .name name :: rest) with hdeep | hsame
  · exact ⟨_, hdeep⟩
  · exact ⟨_, hsame.symm.trans hlax⟩

end

/-- If each link leads somewhere, the resolver finds a place only by a path that leads to it. -/
theorem LinksLead.resolves_of_settle (h : tree.LinksLead) {limit : Nat} {path : List String}
    {place : Place}
    (hplace : tree.settle limit tree.links [] [] (path.map Step.name) = .ok place) :
    ∃ depth : Nat, tree.Resolves depth [] path place := by
  obtain ⟨depth, hlinks⟩ := h.exists_linksResolve
  cases hfirst : path.find? fun name => '\x00' ∈ name.toList with
  | none =>
      have hnul : ∀ name ∈ path, '\x00' ∉ name.toList := by simpa using hfirst
      obtain ⟨there, hthere⟩ := hlinks.resolves [] hnul
      cases eq_of_settle_of_resolves hthere hplace
      exact ⟨_, hthere⟩
  | some name =>
      -- The names before the first one with the character zero lead on, and it stops the resolver.
      obtain ⟨hname, before, after, rfl, hbefore⟩ := List.find?_eq_some_iff_append.mp hfirst
      have hnul : ∀ name ∈ before, '\x00' ∉ name.toList := by simpa using hbefore
      obtain ⟨there, hthere⟩ := hlinks.resolves [] hnul
      obtain ⟨fault, hfault⟩ := settle_error_of_nul hthere (of_decide_eq_true hname) limit
        (after.map Step.name)
      rw [List.map_append, List.map_cons, hfault] at hplace
      cases hplace

end Tree

end Abacus.Files
