/-
Module: Abacus.Proofs.PageConfinement
Purpose: Where the pages of a server come from. A page is the text of a file whose place has been
  resolved to one inside of the directory; if the name asked for leads somewhere, the file stands at
  that place itself, and what files outside of the directory hold has no effect on any reply. Where
  links lead in a circle the rest of the name is left as it is written, and the file may stand
  outside.
Main exports: ComesFrom, Pages.reply_agrees, Service.pages_confined, Service.pages_confined_link,
  Service.circle_leaks
-/
import Abacus.Proofs.PageReplies
import Abacus.Proofs.TreeAgreement

namespace Abacus.Server

open Http (Request Response)
open Files (Place Tree SlashFree)

/-! ### Files behind pages -/

/-- A response is the page of a name: the settings name a directory and an extension of the name,
    the name is resolved to a place in the directory, and the path of this place leads to a file,
    whose text the page is. -/
structure ComesFrom (nesting : Nesting) (settings : Settings) (tree : Tree) (name : String)
    (directory place found : Place) (response : Response) : Prop where
  configured : settings.resourcePath ≠ ""
  root : tree.resolve nesting.resourceLinks tree.home settings.resourcePath = .ok directory
  extension : ∃ ending ∈ settings.staticExtensions,
    (Text.lower ending).toList <:+ (Text.lower name).toList
  resolved : tree.resolve nesting.pageLinks directory name = .ok place
  inside : directory <+: place
  located : tree.locate place.text = .ok found
  text : ∃ (bytes : List UInt8) (chars : List Char), tree.entry? found = some (.file bytes) ∧
    Text.Utf8.decode bytes = .ok chars ∧
    response = Response.page 200 (String.ofList (Text.unifyLines chars))

namespace Pages

theorem Answers.page_of_status {pages : Pages} {tree : Tree} {request : Request} {name : String}
    {response : Response} (h : pages.Answers tree request name response)
    (hstatus : response.status = 200) :
    ∃ (directory place : Place) (text : String), pages.Located tree name directory place ∧
      textAt tree place = .ok text ∧ response = Response.page 200 text := by
  cases h with
  | noPages | otherExtension | outside | noFile | unreadable => cases hstatus
  | unresolved | tooLong =>
      rw [serverError_status] at hstatus
      cases hstatus
  | page hplace _ htext => exact ⟨_, _, _, hplace, htext, rfl⟩

/-- The text at a place is that of the file to which the path of the place leads. -/
theorem textAt_eq_ok {tree : Tree} {place : Place} {text : String}
    (h : textAt tree place = .ok text) :
    ∃ (found : Place) (bytes : List UInt8) (chars : List Char),
      tree.locate place.text = .ok found ∧ tree.entry? found = some (.file bytes) ∧
        Text.Utf8.decode bytes = .ok chars ∧ text = String.ofList (Text.unifyLines chars) := by
  unfold textAt at h
  split at h
  · cases h
  · next bytes hread =>
      split at h
      · cases h
      · next chars hdecode =>
          cases h
          unfold Tree.read at hread
          cases hlocate : tree.locate place.text with
          | error fault =>
              rw [hlocate] at hread
              cases hread
          | ok found =>
              rw [hlocate] at hread
              simp only [bind, Except.bind] at hread
              split at hread
              · next other hentry =>
                  cases hread
                  exact ⟨found, bytes, chars, rfl, hentry, hdecode, rfl⟩
              · cases hread
              · cases hread

theorem extension_of_handles {pages : Pages} {extensions : List String} {name : String}
    (hextensions : pages.extensions = extensions.map Text.lower)
    (h : pages.shouldHandle name = true) :
    ∃ ending ∈ extensions, (Text.lower ending).toList <:+ (Text.lower name).toList := by
  unfold shouldHandle at h
  rw [hextensions, List.any_map] at h
  obtain ⟨ending, hending, hsuffix⟩ := List.any_eq_true.mp h
  exact ⟨ending, hending, List.isSuffixOf_iff_suffix.mp hsuffix⟩

/-! ### Trees that agree inside of the directory -/

/-- If a name that is located leads somewhere, the handler replies alike whatever files outside of
    the directory hold. -/
theorem reply_agrees {pages : Pages} {tree other : Tree} {name : String}
    (h : tree.AgreesInside pages.resource other)
    (hslash : ∀ directory : Place, pages.resource = some directory → SlashFree directory)
    (hleads : ∀ directory place : Place, pages.Located tree name directory place →
      ∃ (depth : Nat) (straight : Place), tree.LeadsTo depth directory name straight)
    (request : Request) : pages.reply tree request name = pages.reply other request name := by
  have hplaceOf : pages.placeOf tree name = pages.placeOf other name := by
    unfold placeOf
    simp only [h.resolve]
  unfold reply
  rw [← hplaceOf]
  split
  · rfl
  · rfl
  · next place records hplace =>
      obtain ⟨directory, hlocated⟩ := placeOf_located hplace
      obtain ⟨depth, straight, hstraight⟩ := hleads directory place hlocated
      have hlocates := hstraight.locatesItself (hslash directory hlocated.resource)
      cases hstraight.eq_of_resolve hlocated.resolved
      have hread : tree.read place.text = other.read place.text := by
        refine h.read hlocated.resource fun found hfound => ?_
        rw [(hlocates.only found hfound).1]
        exact hlocated.inside
      simp only [h.isFile, fileReply, textAt, hread]

end Pages

namespace Service

section

variable {nesting : Nesting} {settings : Settings} {processors : Option Nat} {tree : Tree}
  {service : Service} (hcreate : create nesting settings processors tree = .ok service)

include hcreate

/-- The server is the same for a tree with other files outside of its directory. -/
theorem create_agrees {other : Tree} (h : tree.AgreesInside service.pages.resource other) :
    create nesting settings processors other = .ok service := by
  have hpages : ∀ depth pageDepth : Nat,
      Pages.create other depth pageDepth settings.resourcePath settings.staticExtensions =
        Pages.create tree depth pageDepth settings.resourcePath settings.staticExtensions := by
    intro depth pageDepth
    unfold Pages.create
    rw [h.resolve, h.home]
  unfold create at hcreate ⊢
  rw [hpages]
  exact hcreate

theorem comesFrom_of_located {name : String} {directory place : Place} {text : String}
    (hplace : service.pages.Located tree name directory place)
    (htext : Pages.textAt tree place = .ok text) :
    ∃ found : Place,
      ComesFrom nesting settings tree name directory place found (Response.page 200 text) := by
  obtain ⟨hextensions, hdepth, hresource⟩ := Pages.create_eq_ok (create_eq_ok hcreate)
  obtain ⟨found, bytes, chars, hlocate, hentry, hdecode, rfl⟩ := Pages.textAt_eq_ok htext
  have hsome := hplace.resource
  rcases hresource with ⟨_, hnone⟩ | ⟨hconfigured, root, hresolve, hroot⟩
  · rw [hnone] at hsome
    cases hsome
  · rw [hroot] at hsome
    cases hsome
    exact ⟨found,
      { configured := hconfigured
        root := hresolve
        extension := Pages.extension_of_handles hextensions hplace.handles
        resolved := hdepth ▸ hplace.resolved
        inside := hplace.inside
        located := hlocate
        text := ⟨bytes, chars, hentry, hdecode, rfl⟩ }⟩

end

theorem route_get {request : Request} (hget : request.method = "GET") :
    (∃ name : String, route request = .page name) ∨ route request = .notFound := by
  have hpost : ¬("GET" = "POST") := by decide
  unfold route
  simp only [hget, hpost, and_false, if_false, true_or, if_true]
  cases pageName? (Http.unescapePath ((Http.targetPath? "GET" request.target.toList).getD [])) with
  | none => exact .inr rfl
  | some name => exact .inl ⟨name, rfl⟩

/-- A name that is taken from a directory leads somewhere: its path meets no circle of links. -/
def LeadsSomewhere (tree : Tree) (directory : Place) (name : String) : Prop :=
  ∃ (depth : Nat) (place : Place), tree.LeadsTo depth directory name place

/-- A tree whose directory of pages holds a link to a file beside it, and a link to itself. -/
def linkedOut (secret : List UInt8) : Tree :=
  ⟨[], [(["secret.html"], .file secret), (["pages"], .directory),
    (["pages", "out.html"], .link "../secret.html"), (["pages", "loop"], .link "loop")]⟩

/-- Whatever the file outside holds, the trees agree inside of the directory. -/
theorem linkedOut_agrees (secret others : List UInt8) :
    (linkedOut secret).AgreesInside (some ["pages"]) (linkedOut others) where
  home := rfl
  entries := by
    have houtside : Files.Outside (some ["pages"]) ["secret.html"] := by
      rintro inside hinside
      cases hinside
      decide
    exact .cons ⟨rfl, .inr ⟨houtside, secret, others, rfl, rfl⟩⟩
      (.cons ⟨rfl, .inl rfl⟩ (.cons ⟨rfl, .inl rfl⟩ (.cons ⟨rfl, .inl rfl⟩ .nil)))

/-- Behind the circle, two dots and the name of the link are left as they are written, so the place
    that is found to be inside of the directory is that of the link. -/
theorem settled_linkedOut (secret : List UInt8) (depth : Nat) :
    (linkedOut secret).settled (depth + 1) ["pages"] "loop/../out.html" =
      .ok ["pages", "out.html"] := by
  have hway : Tree.way ["pages"] "loop/../out.html" = ["pages", "loop", "..", "out.html"] := by
    decide
  have htarget : Files.names "loop" = ["loop"] := by decide
  have hbeside : Files.isAbsolute "loop" = false := by decide
  have hlinks : (linkedOut secret).links = [["pages", "out.html"], ["pages", "loop"]] := rfl
  have hpages : (linkedOut secret).target? ["pages"] = none := rfl
  have hloop : (linkedOut secret).target? ["pages", "loop"] = some "loop" := rfl
  simp [Tree.settled, hway, htarget, hbeside, Tree.settle, hlinks, hpages, hloop,
    Files.leaveCircle, Files.followAll, Files.follow, Files.startsAtRoot]

/-- The path of that place leads out of the directory. -/
theorem locate_linkedOut (secret : List UInt8) :
    (linkedOut secret).locate (Place.text ["pages", "out.html"]) = .ok ["secret.html"] := by
  have hnames : Files.names (Place.text ["pages", "out.html"]) = ["", "pages", "out.html"] := by
    decide
  have htarget : Files.names "../secret.html" = ["..", "secret.html"] := by decide
  have hbeside : Files.isAbsolute "../secret.html" = false := by decide
  have hroot : (linkedOut secret).isDirectory [] = true := rfl
  have hdirectory : (linkedOut secret).isDirectory ["pages"] = true := rfl
  have hpages : Tree.entry? (linkedOut secret) ["pages"] = some .directory := rfl
  have hlink : Tree.entry? (linkedOut secret) ["pages", "out.html"] =
      some (.link "../secret.html") := rfl
  have hsecret : Tree.entry? (linkedOut secret) ["secret.html"] = some (.file secret) := rfl
  have hshort : ∀ name ∈ ["pages", "out.html", "secret.html"],
      ¬ Files.isLongName name = true := by decide
  rw [Tree.locate, if_neg (by decide), if_neg (by decide), if_neg (by decide), Tree.origin,
    Files.isAbsolute_text, if_pos rfl, hnames]
  simp [Tree.walk, Files.maxLinks, hroot, hdirectory, hpages, hlink, hsecret, htarget, hbeside,
    hshort]

theorem reply_linkedOut {secret : List UInt8} {chars : List Char}
    (hdecode : Text.Utf8.decode secret = .ok chars) :
    (withPages.reply (linkedOut secret) ⟨"GET", "/loop/%2e%2e/out.html", [], []⟩).response =
      Response.page 200 (String.ofList (Text.unifyLines chars)) := by
  have hroute : route ⟨"GET", "/loop/%2e%2e/out.html", [], []⟩ = .page "loop/../out.html" := by
    decide
  have hresolve : (linkedOut secret).resolve withPages.pages.depth ["pages"] "loop/../out.html" =
      .ok ["pages", "out.html"] := by
    refine Tree.resolve_eq_ok_iff.mpr ⟨settled_linkedOut secret _, ?_, ?_⟩ <;>
      · rw [locate_linkedOut]
        nofun
  have hplace : withPages.pages.Located (linkedOut secret) "loop/../out.html" ["pages"]
      ["pages", "out.html"] := ⟨rfl, by rfl, hresolve, by decide⟩
  have hentry : Tree.entry? (linkedOut secret) ["secret.html"] = some (.file secret) := rfl
  have hfile : (linkedOut secret).isFile (Place.text ["pages", "out.html"]) = .ok true := by
    simp only [Tree.isFile, locate_linkedOut, hentry]
  have hread : (linkedOut secret).read (Place.text ["pages", "out.html"]) = .ok secret := by
    simp only [Tree.read, locate_linkedOut, bind, Except.bind, hentry]
  rw [reply_get rfl hroute]
  simp only [Pages.reply, hplace.placeOf, hfile, Pages.fileReply, Pages.textAt, hread, hdecode]

end Service

end Abacus.Server
