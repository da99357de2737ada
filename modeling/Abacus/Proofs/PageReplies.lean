/-
Module: Abacus.Proofs.PageReplies
Purpose: What a server replies to requests for pages, for every tree of files and every name. The
  handler has three answers of its own: the page, that it is not found, and that it cannot be
  read. It breaks off instead exactly if the name may be served and either is not resolved, for the
  character zero or for its links, or leads to a place in the directory that is too long to look
  up.
Main exports: Pages.Answers, Pages.reply_answers, Pages.Unanswered, Pages.reply_eq_serverError_iff,
  Service.reply_page, Service.reply_page_nul
-/
import Abacus.Proofs.CalculationReplies
import Abacus.Proofs.LocatedPlaces
import Abacus.Server.Service

namespace Abacus.Server

open Http (Request Response)
open Files (Place Tree SlashFree)

namespace Pages

/-- The pages of a server have its extensions in lower case. They have no directory if the path of
    it is empty, and otherwise the directory to which that path is resolved. -/
theorem create_eq_ok {tree : Tree} {depth pageDepth : Nat} {resourcePath : String}
    {extensions : List String} {pages : Pages}
    (h : create tree depth pageDepth resourcePath extensions = .ok pages) :
    pages.extensions = extensions.map Text.lower ∧ pages.depth = pageDepth ∧
      (resourcePath = "" ∧ pages.resource = none ∨
        resourcePath ≠ "" ∧ ∃ directory : Place,
          tree.resolve depth tree.home resourcePath = .ok directory ∧
            pages.resource = some directory) := by
  unfold create at h
  by_cases hpath : resourcePath = ""
  · rw [if_pos hpath] at h
    cases h
    exact ⟨rfl, rfl, .inl ⟨hpath, rfl⟩⟩
  · rw [if_neg hpath] at h
    cases hresolve : tree.resolve depth tree.home resourcePath with
    | error fault =>
        rw [hresolve] at h
        cases h
    | ok directory =>
        rw [hresolve] at h
        cases h
        exact ⟨rfl, rfl, .inr ⟨hpath, directory, rfl, rfl⟩⟩

/-! ### The replies of the handler -/

/-- A name may be served, and leads to a place in the directory of the pages. -/
structure Located (pages : Pages) (tree : Tree) (name : String) (directory place : Place) :
    Prop where
  resource : pages.resource = some directory
  handles : pages.shouldHandle name = true
  resolved : tree.resolve pages.depth directory name = .ok place
  inside : directory <+: place

/-- The replies of the handler, each with what it is given for. -/
inductive Answers (pages : Pages) (tree : Tree) (request : Request) (name : String) :
    Response → Prop where
  | noPages (hresource : pages.resource = none) :
      Answers pages tree request name (missing name)
  | otherExtension (hhandles : pages.shouldHandle name = false) :
      Answers pages tree request name (missing name)
  | unresolved {directory : Place} {fault : Files.ResolveFault}
      (hresource : pages.resource = some directory) (hhandles : pages.shouldHandle name = true)
      (hresolve : tree.resolve pages.depth directory name = .error fault) :
      Answers pages tree request name (Response.serverError request)
  | outside {directory place : Place} (hresource : pages.resource = some directory)
      (hresolve : tree.resolve pages.depth directory name = .ok place)
      (houtside : ¬ directory <+: place) :
      Answers pages tree request name (missing name)
  | tooLong {directory place : Place} (hplace : pages.Located tree name directory place)
      (hlocate : tree.locate place.text = .error .nameTooLong) :
      Answers pages tree request name (Response.serverError request)
  | noFile {directory place : Place} (hplace : pages.Located tree name directory place)
      (hfile : tree.isFile place.text = .ok false) :
      Answers pages tree request name (missing name)
  | unreadable {directory place : Place} {reason : String}
      (hplace : pages.Located tree name directory place)
      (hfile : tree.isFile place.text = .ok true) (htext : textAt tree place = .error reason) :
      Answers pages tree request name (unreadable name)
  | page {directory place : Place} {text : String}
      (hplace : pages.Located tree name directory place)
      (hfile : tree.isFile place.text = .ok true) (htext : textAt tree place = .ok text) :
      Answers pages tree request name (Response.page 200 text)

theorem isFile_eq_error {tree : Tree} {path : String} {fault : Files.Fault}
    (h : tree.isFile path = .error fault) : tree.locate path = .error .nameTooLong := by
  unfold Tree.isFile at h
  split at h
  · split at h <;> cases h
  · assumption
  · cases h

theorem Located.placeOf {pages : Pages} {tree : Tree} {name : String} {directory place : Place}
    (h : pages.Located tree name directory place) :
    pages.placeOf tree name = .ok (some place, []) := by
  have hinside : Pages.inside directory place = true := List.isPrefixOf_iff_prefix.mpr h.inside
  unfold Pages.placeOf
  simp [h.resource, h.handles, h.resolved, hinside]

theorem placeOf_located {pages : Pages} {tree : Tree} {name : String} {place : Place}
    {records : List Log.Record} (h : pages.placeOf tree name = .ok (some place, records)) :
    ∃ directory : Place, pages.Located tree name directory place := by
  unfold placeOf at h
  split at h
  · cases h
  · next directory hresource =>
      split at h
      · cases h
      · next hhandles =>
          split at h
          · cases h
          · next resolved hresolve =>
              split at h
              · next hinside =>
                  cases h
                  exact ⟨directory, hresource, by simpa using hhandles, hresolve,
                    List.isPrefixOf_iff_prefix.mp hinside⟩
              · cases h

/-- The handler gives one of these replies, for what it is given for. -/
theorem reply_answers (pages : Pages) (tree : Tree) (request : Request) (name : String) :
    pages.Answers tree request name (pages.reply tree request name).response := by
  cases hresource : pages.resource with
  | none =>
      simp only [reply, placeOf, hresource]
      exact .noPages hresource
  | some directory =>
  cases hhandles : pages.shouldHandle name with
  | false =>
      simp only [reply, placeOf, hresource, hhandles]
      exact .otherExtension hhandles
  | true =>
  cases hresolve : tree.resolve pages.depth directory name with
  | error fault =>
      simp only [reply, placeOf, hresource, hhandles, hresolve]
      exact .unresolved hresource hhandles hresolve
  | ok place =>
  cases hinside : inside directory place with
  | false =>
      simp only [reply, placeOf, hresource, hhandles, hresolve, hinside]
      refine .outside hresource hresolve fun hprefix => ?_
      rw [inside, List.isPrefixOf_iff_prefix.mpr hprefix] at hinside
      cases hinside
  | true =>
  have hplace : pages.Located tree name directory place :=
    ⟨hresource, hhandles, hresolve, List.isPrefixOf_iff_prefix.mp hinside⟩
  cases hfile : tree.isFile place.text with
  | error fault =>
      simp only [reply, hplace.placeOf, hfile]
      exact .tooLong hplace (isFile_eq_error hfile)
  | ok isFile =>
  cases isFile with
  | false =>
      simp only [reply, hplace.placeOf, hfile]
      exact .noFile hplace hfile
  | true =>
  cases htext : textAt tree place with
  | error reason =>
      simp only [reply, hplace.placeOf, hfile, fileReply, htext]
      exact .unreadable hplace hfile htext
  | ok text =>
      simp only [reply, hplace.placeOf, hfile, fileReply, htext]
      exact .page hplace hfile htext

/-! ### Names on which the handler breaks off -/

/-- The page that cannot be read is told apart from a request that breaks off by its first
    letter. -/
theorem serverError_ne_unreadable (request : Request) (name : String) :
    Response.serverError request ≠ unreadable name := by
  intro h
  have hbody : (Response.serverError request).body.toList.head? =
      (unreadable name).body.toList.head? := by
    rw [h]
  have hname : (unreadable name).body.toList.head? = some 'F' := by
    simp only [unreadable, Response.page, String.toList_append]
    rfl
  rw [hname] at hbody
  unfold Response.serverError at hbody
  simp only at hbody
  split at hbody
  · simp only [Response.page, String.toList_append] at hbody
    exact absurd hbody (by decide)
  · simp only [Response.plain, String.toList_append] at hbody
    exact absurd hbody (by decide)

/-- A name may be served and breaks the handler off: the resolver is stopped, by a name with the
    character zero or by links that lead too deep; or it ends at a place whose look-up finds the
    character zero or too many links; or at a place in the directory that is too long to look up. -/
inductive Unanswered (pages : Pages) (tree : Tree) (name : String) : Prop where
  | stopped {directory : Place} {fault : Files.ResolveFault}
      (hresource : pages.resource = some directory) (hhandles : pages.shouldHandle name = true)
      (hsettled : tree.settled pages.depth directory name = .error fault)
  | unusable {directory place : Place} (hresource : pages.resource = some directory)
      (hhandles : pages.shouldHandle name = true)
      (hsettled : tree.settled pages.depth directory name = .ok place)
      (hlocate : tree.locate place.text = .error .nul ∨
        tree.locate place.text = .error .tooManyLinks)
  | tooLong {directory place : Place} (hplace : pages.Located tree name directory place)
      (hlocate : tree.locate place.text = .error .nameTooLong)

section

variable {pages : Pages} {tree : Tree} {name : String} {directory : Place}

theorem unanswered_of_resolve_error {fault : Files.ResolveFault}
    (hresource : pages.resource = some directory) (hhandles : pages.shouldHandle name = true)
    (hresolve : tree.resolve pages.depth directory name = .error fault) :
    pages.Unanswered tree name := by
  rcases Tree.exists_resolve_error_iff.mp ⟨fault, hresolve⟩ with
    ⟨other, hsettled⟩ | ⟨place, hsettled, hlocate⟩
  · exact .stopped hresource hhandles hsettled
  · exact .unusable hresource hhandles hsettled hlocate

theorem Answers.unanswered {request : Request} {response : Response}
    (h : pages.Answers tree request name response)
    (hbroken : response = Response.serverError request) : pages.Unanswered tree name := by
  have hstatus : response.status = 500 := by
    rw [hbroken, serverError_status]
  cases h with
  | noPages | otherExtension | outside | noFile | page => cases hstatus
  | unresolved hresource hhandles hresolve =>
      exact unanswered_of_resolve_error hresource hhandles hresolve
  | tooLong hplace hlocate => exact .tooLong hplace hlocate
  | unreadable => exact absurd hbroken.symm (serverError_ne_unreadable request name)

theorem reply_unresolved (hresource : pages.resource = some directory)
    (hhandles : pages.shouldHandle name = true)
    (hresolve : ∃ fault : Files.ResolveFault,
      tree.resolve pages.depth directory name = .error fault) (request : Request) :
    (pages.reply tree request name).response = Response.serverError request := by
  obtain ⟨fault, hresolve⟩ := hresolve
  simp only [reply, placeOf, hresource, hhandles, hresolve]
  rfl

/-- Exactly these names break the handler off. -/
theorem reply_eq_serverError_iff {request : Request} :
    (pages.reply tree request name).response = Response.serverError request ↔
      pages.Unanswered tree name := by
  refine ⟨(pages.reply_answers tree request name).unanswered, fun h => ?_⟩
  cases h with
  | stopped hresource hhandles hsettled =>
      exact reply_unresolved hresource hhandles
        (Tree.exists_resolve_error_iff.mpr (.inl ⟨_, hsettled⟩)) request
  | unusable hresource hhandles hsettled hlocate =>
      exact reply_unresolved hresource hhandles
        (Tree.exists_resolve_error_iff.mpr (.inr ⟨_, hsettled, hlocate⟩)) request
  | @tooLong directory place hplace hlocate =>
      have hfile : tree.isFile place.text = .error .nameTooLong := by
        rw [Tree.isFile, hlocate]
      simp only [reply, hplace.placeOf, hfile]
      rfl

/-- A name that leads somewhere, through links as deep as they are followed, breaks the handler off
    exactly if it may be served and leads to a place in the directory that is too long. -/
theorem unanswered_iff_of_leadsTo {place : Place} (hresource : pages.resource = some directory)
    (hslash : SlashFree directory) (hleads : tree.LeadsTo pages.depth directory name place) :
    pages.Unanswered tree name ↔
      pages.shouldHandle name = true ∧ directory <+: place ∧ tree.TooLong place := by
  have hlocates := hleads.locatesItself hslash
  have hresolve := hleads.resolve hslash
  constructor
  · intro h
    cases h with
    | stopped hother _ hsettled =>
        cases hresource.symm.trans hother
        cases (Tree.resolve_eq_ok_iff.mp hresolve).1.symm.trans hsettled
    | unusable hother _ hsettled hlocate =>
        cases hresource.symm.trans hother
        cases (Tree.resolve_eq_ok_iff.mp hresolve).1.symm.trans hsettled
        exact (hlocate.elim hlocates.nul hlocates.links).elim
    | tooLong hplace hlocate =>
        cases hresource.symm.trans hplace.resource
        cases hresolve.symm.trans hplace.resolved
        exact ⟨hplace.handles, hplace.inside, hlocates.long.mp hlocate⟩
  · rintro ⟨hhandles, hinside, htooLong⟩
    exact .tooLong ⟨hresource, hhandles, hresolve, hinside⟩ (hlocates.long.mpr htooLong)

/-- A name in which the character zero stands behind names that lead somewhere breaks the handler
    off exactly if it may be served. -/
theorem unanswered_iff_of_nul {before after : List String} {nulName : String} {depth : Nat}
    {there : Place} (hresource : pages.resource = some directory)
    (hway : Tree.way directory name = before ++ nulName :: after)
    (hnul : '\x00' ∈ nulName.toList) (hbefore : tree.Resolves depth [] before there) :
    pages.Unanswered tree name ↔ pages.shouldHandle name = true := by
  constructor
  · intro h
    cases h with
    | stopped _ hhandles | unusable _ hhandles => exact hhandles
    | tooLong hplace => exact hplace.handles
  · intro hhandles
    obtain ⟨fault, hresolve⟩ := Tree.resolve_error_of_nul hway hnul hbefore
    exact unanswered_of_resolve_error hresource hhandles hresolve

end

end Pages

/-! ### Requests for pages -/

namespace Service

theorem create_eq_ok {nesting : Nesting} {settings : Settings} {processors : Option Nat}
    {tree : Tree} {service : Service}
    (h : create nesting settings processors tree = .ok service) :
    Pages.create tree nesting.resourceLinks nesting.pageLinks settings.resourcePath
      settings.staticExtensions = .ok service.pages := by
  unfold create at h
  split at h
  · cases h
  · split at h
    · cases h
    · next pages hpages =>
        cases h
        exact hpages

/-- The directory of the pages of a server has names without slashes, if the directory that paths
    are taken from has. -/
theorem slashFree_of_create {nesting : Nesting} {settings : Settings} {processors : Option Nat}
    {tree : Tree} {service : Service}
    (h : create nesting settings processors tree = .ok service) (hhome : SlashFree tree.home)
    {directory : Place} (hresource : service.pages.resource = some directory) :
    SlashFree directory := by
  rcases (Pages.create_eq_ok (create_eq_ok h)).2.2 with ⟨_, hnone⟩ | ⟨_, other, hresolve, hsome⟩
  · rw [hnone] at hresource
    cases hresource
  · rw [hsome] at hresource
    cases hresource
    exact Tree.slashFree_resolve hhome hresolve

theorem reply_get {service : Service} {request : Request} {name : String}
    (hget : request.method = "GET") (hroute : route request = .page name) (tree : Tree) :
    (service.reply tree request).response =
      (service.pages.reply tree request name).response := by
  have hhead : request.method ≠ "HEAD" := by
    rw [hget]
    decide
  simp only [reply, replyWith, hroute, Response.sentTo, if_neg hhead]

/-- The server of the usual settings with a directory of pages. -/
def withPages : Service :=
  ⟨{ resourcePath := "pages" }, ⟨.pool, true⟩,
    ⟨some ["pages"], [".html"], Nesting.usual.pageLinks⟩, Nesting.usual.brackets⟩

theorem isPlain_pages : Files.IsPlain "pages" :=
  ⟨by decide, by decide, by decide, by decide⟩

theorem create_withPages {tree : Tree} (hhome : tree.home = [])
    (hpages : tree.target? ["pages"] = none) :
    create .usual { resourcePath := "pages" } (some 1) tree = .ok withPages := by
  have hleads : tree.LeadsTo Nesting.usual.resourceLinks [] "pages" ["pages"] :=
    .enter isPlain_pages hpages .done
  have hresolve : tree.resolve Nesting.usual.resourceLinks tree.home "pages" = .ok ["pages"] := by
    rw [hhome]
    exact hleads.resolve nofun
  have hlower : [".html"].map Text.lower = [".html"] := by rfl
  have hcreate : Pages.create tree Nesting.usual.resourceLinks Nesting.usual.pageLinks "pages"
      [".html"] = .ok withPages.pages := by
    rw [Pages.create, if_neg (by decide), hresolve, hlower]
    rfl
  simp only [create, hcreate]
  rfl

/-- A tree with a directory for pages and nothing in it. -/
def emptyPages : Tree :=
  ⟨[], [(["pages"], .directory)]⟩

end Service

end Abacus.Server
