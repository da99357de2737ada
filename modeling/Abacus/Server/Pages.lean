/-
Module: Abacus.Server.Pages
Purpose: Static pages. A page is served if its name ends with one of the allowed extensions and
  its resolved place lies inside the resource directory; all other names are not found.
Main exports: Pages, Pages.create, Pages.shouldHandle, Pages.reply
-/
import Abacus.Files.Resolve
import Abacus.Server.Calculation
import Abacus.Text.Line

namespace Abacus.Server

open Http (Request Response)
open Files (Place Tree)

/-- The pages of a server: the resolved resource directory, if pages are served, the allowed
extensions in lower case, and how deep links are followed inside of each other. -/
structure Pages where
  resource : Option Place
  extensions : List String
  depth : Nat
deriving DecidableEq, Repr, Inhabited

namespace Pages

/-- The pages for a resource path and extensions; an empty path serves none. Links on that path are
followed as deep as `depth`, links to pages as deep as `pageDepth`. -/
def create (tree : Tree) (depth pageDepth : Nat) (resourcePath : String)
    (extensions : List String) : Except Files.ResolveFault Pages := do
  let resource ←
    if resourcePath = "" then pure none else some <$> tree.resolve depth tree.home resourcePath
  return ⟨resource, extensions.map Text.lower, pageDepth⟩

/-- Whether a name has one of the allowed extensions, in any case. -/
def shouldHandle (pages : Pages) (name : String) : Bool :=
  pages.extensions.any fun ending => ending.toList.isSuffixOf (Text.lower name).toList

/-- A record of this handler. -/
def record (level : Log.Level) (message : String) : Log.Record :=
  ⟨level, .pages, message⟩

/-- Whether a place lies in a directory, or is the directory. -/
def inside (directory place : Place) : Bool :=
  directory.isPrefixOf place

/-- The place of a page, if its name may be served, and what is logged. -/
def placeOf (pages : Pages) (tree : Tree) (name : String) :
    Except Files.ResolveFault (Option Place × List Log.Record) :=
  match pages.resource with
  | none => .ok (none, [])
  | some resource =>
      if ¬pages.shouldHandle name then .ok (none, [])
      else
        match tree.resolve pages.depth resource name with
        | .error fault => .error fault
        | .ok place =>
            if inside resource place then .ok (some place, [])
            else
              .ok (none, [record .warning s!"Rejected path outside resource directory: {name}"])

/-- The response for a name that is not served. -/
def missing (name : String) : Response :=
  Response.page 404 s!"File \"/{name}\" not found!"

/-- The response for a page that cannot be read. -/
def unreadable (name : String) : Response :=
  Response.page 500 s!"File \"/{name}\" could not be read!"

/-- The text of the file at a place, or why it has none. -/
def textAt (tree : Tree) (place : Place) : Except String String :=
  match tree.read place.text with
  | .error fault => .error (fault.message place.text)
  | .ok bytes =>
      match Text.Utf8.decode bytes with
      | .error fault => .error fault.message
      | .ok text => .ok (String.ofList (Text.unifyLines text))

/-- The response for the file at a place, and what is logged. -/
def fileReply (tree : Tree) (name : String) (place : Place) : Response × List Log.Record :=
  match textAt tree place with
  | .ok text => (Response.page 200 text, [])
  | .error reason =>
      (unreadable name,
        [record .warning s!"Failed to read static file {place.text}: {reason}"])

/-- The reply to a request for the page of a name. -/
def reply (pages : Pages) (tree : Tree) (request : Request) (name : String) : Reply :=
  let received := record .debug s!"Received static file request: {name}"
  let notFound := record .info s!"Static file not found: {name}"
  match pages.placeOf tree name with
  | .error _ => .broken request [received]
  | .ok (none, records) => ⟨missing name, received :: records ++ [notFound]⟩
  | .ok (some place, records) =>
      match tree.isFile place.text with
      | .error _ => .broken request (received :: records)
      | .ok false => ⟨missing name, received :: records ++ [notFound]⟩
      | .ok true =>
          let (response, more) := fileReply tree name place
          ⟨response, received :: records ++ more⟩

end Pages

end Abacus.Server
