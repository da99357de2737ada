/-
Module: Abacus.Proofs.LocatedPlaces
Purpose: The text of a place leads to that place and to no other, if no link is found on the way to
  it; then none stands there, unless the place is too long to be looked up. A path that leads
  somewhere is resolved to the place that it leads to, and to no other; and where its place is
  looked up, a name or the whole text may be too long, but there are never too many links.
Main exports: names_text, Tree.read_eq_nul_iff, Tree.LinkFree, Tree.TooLong,
  Tree.locatesItself_of_clear, Tree.LeadsTo, Tree.resolve_eq_ok_iff,
  Tree.exists_resolve_error_iff, Tree.LeadsTo.resolve, Tree.LeadsTo.eq_of_resolve,
  Tree.forall_mem_resolve
-/
import Abacus.Proofs.PathResolution
import Abacus.Proofs.TextLines

namespace Abacus

namespace Files

/-! ### Names and the texts of places -/

/-- No name of a place or of a path holds a slash. -/
def SlashFree (names : List String) : Prop :=
  ∀ name ∈ names, '/' ∉ name.toList

theorem slashFree_names (path : String) : SlashFree (names path) := by
  intro name hname
  obtain ⟨piece, hpiece, rfl⟩ := List.mem_map.mp hname
  rw [String.toList_ofList]
  exact Text.not_mem_of_mem_pieces hpiece

theorem SlashFree.append {first later : List String} (hfirst : SlashFree first)
    (hlater : SlashFree later) : SlashFree (first ++ later) :=
  List.forall_mem_append.mpr ⟨hfirst, hlater⟩

theorem SlashFree.dropLast {place : Place} (h : SlashFree place) : SlashFree place.dropLast :=
  fun name hname => h name (List.dropLast_subset place hname)

section

variable {P : String → Prop}

theorem forall_mem_follow {here : Place} {name : String} (hhere : ∀ found ∈ here, P found)
    (hname : P name) : ∀ found ∈ follow here name, P found := by
  unfold Files.follow
  split
  · exact hhere
  · split
    · exact fun found hfound => hhere found (List.dropLast_subset here hfound)
    · exact List.forall_mem_append.mpr ⟨hhere, List.forall_mem_singleton.mpr hname⟩

/-- The names among the steps that are left have a property. -/
def StepsHold (P : String → Prop) (steps : List Step) : Prop :=
  ∀ name : String, Step.name name ∈ steps → P name

theorem StepsHold.tail {step : Step} {rest : List Step} (h : StepsHold P (step :: rest)) :
    StepsHold P rest :=
  fun name hname => h name (List.mem_cons_of_mem step hname)

theorem forall_mem_followAll {here : Place} {steps : List Step} (hhere : ∀ found ∈ here, P found)
    (hsteps : StepsHold P steps) : ∀ found ∈ followAll here steps, P found := by
  induction steps generalizing here with
  | nil => exact hhere
  | cons step rest ih =>
      have hrest := hsteps.tail
      cases step with
      | name name => exact ih (forall_mem_follow hhere (hsteps name List.mem_cons_self)) hrest
      | resolved link =>
          rw [Files.followAll]
          split
          · exact ih nofun hrest
          · exact ih hhere hrest

end

theorem toList_text (place : Place) :
    place.text.toList = '/' :: ['/'].intercalate (place.map String.toList) := by
  rw [Place.text, String.toList_append, String.toList_intercalate]
  rfl

/-- The names of the text of a place: the empty one before the first slash, and those of the
    place. -/
theorem names_text {place : Place} (hne : place ≠ []) (h : SlashFree place) :
    names place.text = "" :: place := by
  have hpieces : Text.pieces '/' (['/'].intercalate (place.map String.toList)) =
      place.map String.toList := by
    refine Text.pieces_intercalate (mt List.map_eq_nil_iff.mp hne) fun text htext => ?_
    obtain ⟨name, hname, rfl⟩ := List.mem_map.mp htext
    exact h name hname
  rw [names, toList_text, Text.pieces, if_pos rfl, hpieces, List.map_cons, List.map_map]
  have hsame : String.ofList ∘ String.toList = id := by
    funext name
    exact String.ofList_toList
  rw [hsame, List.map_id]

theorem isAbsolute_text (place : Place) : isAbsolute place.text = true := by
  rw [isAbsolute, toList_text]
  rfl

/-- The text of a place holds slashes and what its names hold. -/
theorem not_mem_text {place : Place} {c : Char} (hslash : c ≠ '/')
    (h : ∀ name ∈ place, c ∉ name.toList) : c ∉ place.text.toList := by
  rw [toList_text]
  intro hmem
  rcases List.mem_cons.mp hmem with hfirst | hlater
  · exact hslash hfirst
  · rcases Text.mem_of_mem_intercalate hlater with hseparator | ⟨text, htext, hc⟩
    · exact hslash (List.mem_singleton.mp hseparator)
    · obtain ⟨name, hname, rfl⟩ := List.mem_map.mp htext
      exact h name hname hc

/-- Further names make the text of a place longer. -/
theorem isLongPath_of_begins {reached place : Place} (h : reached <+: place)
    (hlong : isLongPath reached.text = true) : isLongPath place.text = true := by
  obtain ⟨rest, hrest⟩ : reached.text.toList <+: place.text.toList := by
    rw [toList_text, toList_text]
    exact List.cons_prefix_cons.mpr ⟨rfl, Text.intercalate_prefix ['/'] (h.map String.toList)⟩
  have htext : place.text = reached.text ++ String.ofList rest := by
    rw [← String.toList_inj, String.toList_append, String.toList_ofList, hrest]
  simp only [isLongPath, decide_eq_true_eq, htext, String.utf8ByteSize_append] at hlong ⊢
  omega

namespace Tree

variable {tree : Tree}

/-! ### Paths that hold the character zero -/

theorem walk_ne_nul (tree : Tree) (links : Nat) (here : Place) (names : List String) :
    tree.walk links here names ≠ .error .nul := by
  fun_induction tree.walk links here names <;> simp_all

theorem locate_eq_nul_iff (tree : Tree) {path : String} :
    tree.locate path = .error .nul ↔ '\x00' ∈ path.toList := by
  unfold locate
  by_cases hnul : '\x00' ∈ path.toList
  · simp [hnul]
  · rw [if_neg hnul]
    refine iff_of_false ?_ hnul
    split
    · simp
    · split
      · simp
      · exact walk_ne_nul tree _ _ _

theorem read_eq_nul_iff (tree : Tree) {path : String} :
    tree.read path = .error .nul ↔ '\x00' ∈ path.toList := by
  rw [← locate_eq_nul_iff tree, read]
  cases tree.locate path with
  | error fault => simp [bind, Except.bind]
  | ok place =>
      refine iff_of_false ?_ nofun
      simp only [bind, Except.bind]
      split <;> nofun

/-! ### Looking up a place by its text -/

/-- No link stands on the way to a place, nor at the place. -/
def LinkFree (tree : Tree) (place : Place) : Prop :=
  ∀ reached : Place, reached <+: place → ∀ target : String,
    tree.entry? reached ≠ some (.link target)

theorem linkFree_nil : tree.LinkFree [] := by
  rintro reached hreached target hentry
  rw [List.prefix_nil.mp hreached] at hentry
  cases hentry

theorem LinkFree.enter {here : Place} {name : String} (h : tree.LinkFree here)
    (hentry : ∀ target : String, tree.entry? (here ++ [name]) ≠ some (.link target)) :
    tree.LinkFree (here ++ [name]) := by
  intro reached hreached
  rcases List.prefix_concat_iff.mp hreached with rfl | hbefore
  · exact hentry
  · exact h reached hbefore

/-- The walk stops at a name that is too long: all places before it are directories. -/
def StopsAtName (tree : Tree) (here : Place) (path : List String) : Prop :=
  ∃ (before : List String) (long : String) (after : List String), path = before ++ long :: after ∧
    isLongName long = true ∧
    ∀ reached : List String, reached <+: before → tree.isDirectory (here ++ reached) = true

theorem not_stopsAtName {here : Place} {path : List String}
    (h : tree.isDirectory here = false) : ¬ tree.StopsAtName here path := by
  rintro ⟨before, long, after, _, _, hbefore⟩
  have hhere := hbefore [] List.nil_prefix
  rw [List.append_nil, h] at hhere
  cases hhere

/-- Behind a directory, the walk stops at a name if that name is too long or if it stops at a later
    one. -/
theorem stopsAtName_cons_iff {here : Place} {name : String} {rest : List String}
    (h : tree.isDirectory here = true) :
    tree.StopsAtName here (name :: rest) ↔
      isLongName name = true ∨ tree.StopsAtName (here ++ [name]) rest := by
  constructor
  · rintro ⟨before, long, after, hpath, hlong, hbefore⟩
    cases before with
    | nil =>
        cases hpath
        exact .inl hlong
    | cons first before =>
        cases hpath
        refine .inr ⟨before, long, after, rfl, hlong, fun reached hreached => ?_⟩
        have hdirectory := hbefore (name :: reached) (List.cons_prefix_cons.mpr ⟨rfl, hreached⟩)
        rw [List.append_assoc, List.singleton_append]
        exact hdirectory
  · rintro (hlong | ⟨before, long, after, rfl, hlong, hbefore⟩)
    · refine ⟨[], name, rest, rfl, hlong, fun reached hreached => ?_⟩
      rw [List.prefix_nil.mp hreached, List.append_nil]
      exact h
    · refine ⟨name :: before, long, after, rfl, hlong, fun reached hreached => ?_⟩
      cases reached with
      | nil =>
          rw [List.append_nil]
          exact h
      | cons first reached =>
          obtain ⟨rfl, hlater⟩ := List.cons_prefix_cons.mp hreached
          have hdirectory := hbefore reached hlater
          rw [List.append_assoc, List.singleton_append] at hdirectory
          exact hdirectory

/-- What a walk can come to along names that lead on without a link that is found: the place that
    they are written for, with no link on the way, or a fault that is not about links, and about a
    name exactly if the walk stops at one. -/
structure WalksTo (tree : Tree) (here : Place) (path : List String)
    (found : Except Fault Place) : Prop where
  place : ∀ place : Place, found = .ok place → place = here ++ path ∧ tree.LinkFree place
  links : found ≠ .error .tooManyLinks
  long : found = .error .nameTooLong ↔ tree.StopsAtName here path

theorem walksTo_error {here : Place} {path : List String} {fault : Fault}
    (hlinks : fault ≠ .tooManyLinks)
    (hlong : fault = .nameTooLong ↔ tree.StopsAtName here path) :
    tree.WalksTo here path (.error fault) where
  place := by
    intro place hplace
    cases hplace
  links := by
    rw [Ne, Except.error.injEq]
    exact hlinks
  long := by
    rw [Except.error.injEq]
    exact hlong

theorem walksTo_here {here : Place} (hfree : tree.LinkFree here) :
    tree.WalksTo here [] (.ok here) where
  place := by
    intro place hplace
    cases hplace
    rw [List.append_nil]
    exact ⟨rfl, hfree⟩
  links := by
    intro h
    cases h
  long := by
    constructor
    · intro h
      cases h
    · rintro ⟨before, long, after, hpath, _⟩
      exact absurd hpath.symm (List.append_ne_nil_of_right_ne_nil before (List.cons_ne_nil _ _))

/-- A walk along such names, whose place is not too long as a whole. The names before are not too
    long either, or the walk would have stopped; so a link that stands on the way is found. -/
theorem walksTo_of_clear {here : Place} {path : List String} {links : Nat}
    (hclear : tree.Clear (here ++ path)) (hplain : ∀ name ∈ path, IsPlain name)
    (hsize : ¬ isLongPath (Place.text (here ++ path)) = true)
    (hshort : ∀ known ∈ here, ¬ isLongName known = true) (hfree : tree.LinkFree here) :
    tree.WalksTo here path (tree.walk links here path) := by
  -- That the names before are not too long has to be known at each name: no link would be found at
  -- a place too long, and `hclear` would say nothing of what stands there.
  induction path generalizing here with
  | nil =>
      rw [walk]
      exact walksTo_here hfree
  | cons name rest ih =>
      obtain ⟨hname, hrest⟩ := List.forall_mem_cons.mp hplain
      have hsame : here ++ name :: rest = here ++ [name] ++ rest := by
        rw [List.append_assoc, List.singleton_append]
      rw [hsame] at hclear hsize
      cases hdirectory : tree.isDirectory here with
      | false =>
          rw [walk, hdirectory, if_pos Bool.false_ne_true]
          exact walksTo_error (by decide)
            (iff_of_false (by decide) (not_stopsAtName hdirectory))
      | true =>
          rw [walk, hdirectory, if_neg (not_not.mpr rfl), if_neg hname.not_stay,
            if_neg hname.notDots]
          by_cases hlong : isLongName name = true
          · rw [if_pos hlong]
            refine walksTo_error (by decide) (iff_of_true rfl ?_)
            exact (stopsAtName_cons_iff hdirectory).mpr (.inl hlong)
          rw [if_neg hlong]
          have hstops : tree.StopsAtName here (name :: rest) ↔
              tree.StopsAtName (here ++ [name]) rest := by
            rw [stopsAtName_cons_iff hdirectory, or_iff_right hlong]
          have hnames : ∀ known ∈ here ++ [name], ¬ isLongName known = true :=
            List.forall_mem_append.mpr ⟨hshort, List.forall_mem_singleton.mpr hlong⟩
          have hprefix : here ++ [name] <+: here ++ [name] ++ rest := List.prefix_append _ rest
          have hfits : Place.isLong (here ++ [name]) = false := by
            rw [Place.isLong, Bool.or_eq_false_iff, List.any_eq_false, Bool.eq_false_iff]
            exact ⟨mt (isLongPath_of_begins hprefix) hsize, hnames⟩
          split
          · next hentry =>
              have hnone : tree.isDirectory (here ++ [name]) = false := by
                rw [isDirectory, hentry]
                rfl
              refine walksTo_error (by decide) (iff_of_false (by decide) ?_)
              rw [hstops]
              exact not_stopsAtName hnone
          · next target hentry =>
              have hnone := hclear (here ++ [name]) hprefix
              rw [target?_eq_some_iff.mpr ⟨hfits, hentry⟩] at hnone
              cases hnone
          · next entry hentry hother =>
              have hnext : tree.LinkFree (here ++ [name]) := by
                refine hfree.enter fun target hlink => ?_
                rw [hother] at hlink
                cases hlink
                exact hentry target rfl
              have hlater := ih hclear hrest hsize hnames hnext
              refine ⟨?_, hlater.links, hlater.long.trans hstops.symm⟩
              rw [hsame]
              exact hlater.place

/-- A place on which a look-up by its text fails for the length of the text or of a name. -/
def TooLong (tree : Tree) (place : Place) : Prop :=
  isLongPath place.text = true ∨ tree.StopsAtName [] place

/-- What a look-up of a place by its text comes to: the place itself and no other, with no link on
    the way, or a fault that is neither about links nor about the character zero, and about lengths
    exactly if the place is too long. -/
structure LocatesItself (tree : Tree) (place : Place) : Prop where
  only : ∀ found : Place, tree.locate place.text = .ok found →
    found = place ∧ tree.LinkFree found
  nul : tree.locate place.text ≠ .error .nul
  links : tree.locate place.text ≠ .error .tooManyLinks
  long : tree.locate place.text = .error .nameTooLong ↔ tree.TooLong place

/-- The text of a place before which no link is found leads to that place and to no other. -/
theorem locatesItself_of_clear {place : Place} (hclear : tree.Clear place)
    (hplain : ∀ name ∈ place, IsPlain name) (hslash : SlashFree place) :
    tree.LocatesItself place := by
  have hempty : place.text ≠ "" := by
    intro h
    have hlist := toList_text place
    rw [h] at hlist
    cases hlist
  have hnul : '\x00' ∉ place.text.toList :=
    not_mem_text (by decide) fun name hname => (hplain name hname).noNul
  have hwalk : tree.walk maxLinks (tree.origin place.text) (names place.text) =
      tree.walk maxLinks [] place := by
    rw [origin, isAbsolute_text, if_pos rfl]
    cases place with
    | nil =>
        have hnames : names (Place.text []) = ["", ""] := rfl
        simp [hnames, walk, isDirectory, entry?]
    | cons name rest =>
        rw [names_text (List.cons_ne_nil name rest) hslash, walk]
        simp [isDirectory, entry?]
  by_cases hsize : isLongPath place.text = true
  · have hlocate : tree.locate place.text = .error .nameTooLong := by
      rw [locate, if_neg hnul, if_neg hempty, if_pos hsize]
    refine ⟨fun found hfound => ?_, ?_, ?_, iff_of_true hlocate (.inl hsize)⟩
    · rw [hlocate] at hfound
      cases hfound
    · rw [hlocate]
      intro h
      cases h
    · rw [hlocate]
      intro h
      cases h
  · have hlocate : tree.locate place.text = tree.walk maxLinks [] place := by
      rw [locate, if_neg hnul, if_neg hempty, if_neg hsize, hwalk]
    have hwalks : tree.WalksTo [] place (tree.walk maxLinks [] place) :=
      walksTo_of_clear hclear hplain hsize (List.forall_mem_nil _) linkFree_nil
    refine ⟨fun found hfound => ?_, mt (locate_eq_nul_iff tree).mp hnul, ?_, ?_⟩
    · rw [hlocate] at hfound
      obtain ⟨rfl, hfree⟩ := hwalks.place found hfound
      exact ⟨rfl, hfree⟩
    · rw [hlocate]
      exact hwalks.links
    · rw [hlocate, hwalks.long]
      exact (or_iff_right hsize).symm

/-! ### Resolved paths -/

theorem Resolves.plain {depth : Nat} {here place : Place} {path : List String}
    (h : tree.Resolves depth here path place) (hhere : ∀ name ∈ here, IsPlain name) :
    ∀ name ∈ place, IsPlain name := by
  induction h with
  | done => exact hhere
  | stay _ _ ih => exact ih hhere
  | up _ ih => exact ih fun name hname => hhere name (List.dropLast_subset _ hname)
  | enter hname _ _ ih =>
      exact ih (List.forall_mem_append.mpr ⟨hhere, List.forall_mem_singleton.mpr hname⟩)
  | @link _ here _ _ name target _ _ _ _ _ ihlink ihrest =>
      refine ihrest (ihlink ?_)
      unfold targetBase
      split
      · exact nofun
      · rw [List.dropLast_concat]
        exact hhere

theorem slashFree_targetBase {here : Place} (h : SlashFree here) (name target : String) :
    SlashFree (targetBase (here ++ [name]) target) := by
  unfold targetBase
  split
  · exact nofun
  · rw [List.dropLast_concat]
    exact h

theorem Resolves.slashFree {depth : Nat} {here place : Place} {path : List String}
    (h : tree.Resolves depth here path place) (hhere : SlashFree here) (hpath : SlashFree path) :
    SlashFree place := by
  induction h with
  | done => exact hhere
  | stay _ _ ih => exact ih hhere (List.forall_mem_cons.mp hpath).2
  | up _ ih => exact ih hhere.dropLast (List.forall_mem_cons.mp hpath).2
  | enter _ _ _ ih =>
      obtain ⟨hname, hrest⟩ := List.forall_mem_cons.mp hpath
      exact ih (hhere.append (List.forall_mem_singleton.mpr hname)) hrest
  | @link _ here _ _ name target _ _ _ _ _ ihlink ihrest =>
      have hbase := slashFree_targetBase hhere name target
      exact ihrest (ihlink hbase (slashFree_names target)) (List.forall_mem_cons.mp hpath).2

/-- The names of a path that lead anywhere: all but empty ones and single dots. -/
def written (path : String) : List String :=
  (names path).filter fun name => name ≠ "" ∧ name ≠ "."

/-- The names along which a path leads that is taken from a place. -/
def way (base : Place) (path : String) : List String :=
  (if isAbsolute path then [] else base) ++ written path

/-- A path that is taken from a place leads to another, with links inside of links as deep as
    `depth`. Links do not lead in a circle on the way. -/
def LeadsTo (tree : Tree) (depth : Nat) (base : Place) (path : String) (place : Place) : Prop :=
  tree.Resolves depth [] (way base path) place

theorem slashFree_way {base : Place} (hbase : SlashFree base) (path : String) :
    SlashFree (way base path) := by
  refine SlashFree.append ?_ fun name hname => ?_
  · split
    · exact nofun
    · exact hbase
  · exact slashFree_names path name (List.mem_of_mem_filter hname)

/-- The place at which the resolver ends, if it is not stopped. -/
def settled (tree : Tree) (depth : Nat) (base : Place) (path : String) :
    Except ResolveFault Place :=
  tree.settle depth tree.links [] [] ((way base path).map Step.name)

section

variable {depth limit : Nat} {base place : Place} {path : String}

/-- A path is resolved to the place at which the resolver ends, unless the look-up of the place
    finds too many links, or the character zero is in its text. -/
theorem resolve_eq_ok_iff :
    tree.resolve depth base path = .ok place ↔
      tree.settled depth base path = .ok place ∧
        tree.locate place.text ≠ .error .nul ∧ tree.locate place.text ≠ .error .tooManyLinks := by
  unfold resolve
  change (tree.settled depth base path >>= _) = _ ↔ _
  cases tree.settled depth base path with
  | error fault => simp [bind, Except.bind]
  | ok found =>
      simp only [bind, Except.bind, Except.ok.injEq]
      constructor
      · intro h
        split at h
        · cases h
        · cases h
        · next hnul hlinks =>
            cases h
            exact ⟨rfl, hnul, hlinks⟩
      · rintro ⟨rfl, hnul, hlinks⟩
        split
        · next hlocate => exact absurd hlocate hnul
        · next hlocate => exact absurd hlocate hlinks
        · rfl

/-- A path has no resolved place if the resolver is stopped, or if the look-up of the place where it
    ends finds too many links or the character zero. -/
theorem exists_resolve_error_iff :
    (∃ fault : ResolveFault, tree.resolve depth base path = .error fault) ↔
      (∃ fault : ResolveFault, tree.settled depth base path = .error fault) ∨
        ∃ place : Place, tree.settled depth base path = .ok place ∧
          (tree.locate place.text = .error .nul ∨
            tree.locate place.text = .error .tooManyLinks) := by
  cases hresolve : tree.resolve depth base path with
  | ok place =>
      obtain ⟨hsettled, hnul, hlinks⟩ := resolve_eq_ok_iff.mp hresolve
      simp [hsettled, hnul, hlinks]
  | error fault =>
      refine iff_of_true ⟨fault, rfl⟩ ?_
      cases hsettled : tree.settled depth base path with
      | error other => exact .inl ⟨other, rfl⟩
      | ok place =>
          refine .inr ⟨place, rfl, ?_⟩
          by_contra hfine
          rw [resolve_eq_ok_iff.mpr ⟨hsettled, not_or.mp hfine⟩] at hresolve
          cases hresolve

/-- If each link leads somewhere, a path is resolved only to a place that it leads to. -/
theorem LinksLead.leadsTo_of_resolve (h : tree.LinksLead)
    (hresolve : tree.resolve limit base path = .ok place) :
    ∃ depth : Nat, tree.LeadsTo depth base path place :=
  h.resolves_of_settle (resolve_eq_ok_iff.mp hresolve).1

/-- Behind names that lead somewhere, a name with the character zero keeps a path from being
    resolved. -/
theorem resolve_error_of_nul {before after : List String} {name : String}
    (hway : way base path = before ++ name :: after) (hnul : '\x00' ∈ name.toList)
    (hbefore : tree.Resolves depth [] before place) :
    ∃ fault : ResolveFault, tree.resolve limit base path = .error fault := by
  obtain ⟨fault, hfault⟩ := settle_error_of_nul hbefore hnul limit (after.map Step.name)
  cases hresolve : tree.resolve limit base path with
  | error other => exact ⟨other, rfl⟩
  | ok found =>
      have hsettled := (resolve_eq_ok_iff.mp hresolve).1
      rw [settled, hway, List.map_append, List.map_cons, hfault] at hsettled
      cases hsettled

variable (h : tree.LeadsTo depth base path place)

include h

theorem LeadsTo.locatesItself (hbase : SlashFree base) : tree.LocatesItself place :=
  locatesItself_of_clear (h.clear clear_nil) (h.plain nofun)
    (h.slashFree nofun (slashFree_way hbase path))

/-- A path that leads somewhere is resolved to the place that it leads to, if links are followed as
    deep as it leads through them. -/
theorem LeadsTo.resolve (hbase : SlashFree base) : tree.resolve depth base path = .ok place :=
  have hlocates := h.locatesItself hbase
  resolve_eq_ok_iff.mpr ⟨settle_of_resolves h, hlocates.nul, hlocates.links⟩

/-- However deep links are followed, it is resolved to no other place. -/
theorem LeadsTo.eq_of_resolve {found : Place}
    (hfound : tree.resolve limit base path = .ok found) : found = place :=
  eq_of_settle_of_resolves h (resolve_eq_ok_iff.mp hfound).1

end

/-! ### Names of resolved places -/

section

variable {P : String → Prop}

/-- The names of the places in a table of links have a property. -/
def TableHolds (P : String → Prop) (resolved : List (Place × Place)) : Prop :=
  ∀ link place : Place, resolved.lookup link = some place → ∀ name ∈ place, P name

theorem TableHolds.cons {resolved : List (Place × Place)} (h : TableHolds P resolved)
    {link place : Place} (hplace : ∀ name ∈ place, P name) :
    TableHolds P ((link, place) :: resolved) := by
  intro other found hfound
  rw [List.lookup_cons] at hfound
  split at hfound
  · cases hfound
    exact hplace
  · exact h other found hfound

/-- The names in the targets of all links have a property. -/
def TargetsHold (P : String → Prop) (tree : Tree) : Prop :=
  ∀ (link : Place) (target : String), tree.target? link = some target →
    ∀ name ∈ names target, P name

/-- Whatever links there are, each name of the place at which the resolver ends is one of those
    that it meets. -/
theorem forall_mem_settle (htargets : TargetsHold P tree) {depth : Nat} {fresh : List Place}
    {resolved : List (Place × Place)} {here place : Place} {steps : List Step}
    (htable : TableHolds P resolved) (hhere : ∀ name ∈ here, P name)
    (hsteps : StepsHold P steps)
    (hplace : tree.settle depth fresh resolved here steps = .ok place) :
    ∀ name ∈ place, P name := by
  fun_induction tree.settle depth fresh resolved here steps
  case case1 =>
    cases hplace
    exact hhere
  case case2 ih => exact ih (htable.cons hhere) hhere hsteps.tail hplace
  case case3 ih => exact ih htable hhere hsteps.tail hplace
  case case4 ih =>
    exact ih htable (fun name hname => hhere name (List.dropLast_subset _ hname)) hsteps.tail
      hplace
  case case5 => cases hplace
  case case6 ih =>
    have hname := hsteps _ List.mem_cons_self
    refine ih htable ?_ hsteps.tail hplace
    exact List.forall_mem_append.mpr ⟨hhere, List.forall_mem_singleton.mpr hname⟩
  case case7 => cases hplace
  case case8 htarget _ _ ih =>
    refine ih htable ?_ (fun name hname => ?_) hplace
    · split
      · exact List.forall_mem_nil P
      · exact hhere
    · rcases List.mem_append.mp hname with hmem | hmem
      · obtain ⟨other, hother, hsame⟩ := List.mem_map.mp hmem
        cases hsame
        exact htargets _ _ htarget name hother
      · rcases List.mem_cons.mp hmem with hsame | hmem
        · cases hsame
        · exact hsteps.tail name hmem
  case case9 hlookup ih => exact ih htable (htable _ _ hlookup) hsteps.tail hplace
  case case10 =>
    have hname := hsteps _ List.mem_cons_self
    have hnext := List.forall_mem_append.mpr ⟨hhere, List.forall_mem_singleton.mpr hname⟩
    cases hplace
    unfold leaveCircle
    split
    · exact forall_mem_followAll (List.forall_mem_nil P) hsteps.tail
    · exact forall_mem_followAll hnext hsteps.tail

/-- The names of a resolved place are those of the place that the path is taken from, of the path
    and of the targets of links. -/
theorem forall_mem_resolve (htargets : TargetsHold P tree) {depth : Nat} {base place : Place}
    {path : String} (hbase : ∀ name ∈ base, P name) (hpath : ∀ name ∈ names path, P name)
    (h : tree.resolve depth base path = .ok place) : ∀ name ∈ place, P name := by
  have hempty : TableHolds P [] := nofun
  have hroot : ∀ name ∈ ([] : Place), P name := nofun
  refine forall_mem_settle htargets hempty hroot (fun name hname => ?_)
    (resolve_eq_ok_iff.mp h).1
  obtain ⟨other, hother, hsame⟩ := List.mem_map.mp hname
  cases hsame
  rcases List.mem_append.mp hother with horigin | hwritten
  · split at horigin
    · cases horigin
    · exact hbase name horigin
  · exact hpath name (List.mem_of_mem_filter hwritten)

end

theorem slashFree_resolve {depth : Nat} {base place : Place} {path : String}
    (hbase : SlashFree base) (h : tree.resolve depth base path = .ok place) : SlashFree place :=
  forall_mem_resolve (fun _ target _ => slashFree_names target) hbase (slashFree_names path) h

end Tree

end Files

end Abacus
