/-
Module: Abacus.Proofs.ErrorPages
Purpose: What the error pages of a server show of a request. A page that is not found or cannot be
  read is named in the answer as it was asked for, so the angle brackets of the answer are those of
  the name, and every name can be asked for. The page for a request that breaks off is fixed.
Main exports: angles, angles_missing, angles_unreadable, serverError_html,
  Service.errorPage_brackets, Service.errorPage_bold
-/
import Abacus.Proofs.AskedNames
import Abacus.Proofs.PageConfinement

namespace Abacus.Server

open Http (Request Response)
open Files (Tree)

/-! ### Angle brackets -/

/-- The angle brackets of a text, in order. -/
def angles (text : String) : List Char :=
  text.toList.filter fun c => c = '<' ∨ c = '>'

theorem angles_append (first second : String) :
    angles (first ++ second) = angles first ++ angles second := by
  rw [angles, String.toList_append, List.filter_append]
  rfl

/-- Words without angle brackets around a name leave those of the name. -/
theorem angles_around {front behind : String} (hfront : angles front = [])
    (hbehind : angles behind = []) (name : String) :
    angles (front ++ name ++ behind) = angles name := by
  rw [angles_append, angles_append, hfront, hbehind, List.nil_append, List.append_nil]

namespace Pages

theorem angles_missing (name : String) : angles (missing name).body = angles name :=
  angles_around (by decide) (by decide) name

theorem angles_unreadable (name : String) : angles (unreadable name).body = angles name :=
  angles_around (by decide) (by decide) name

end Pages

/-- The page for a request that breaks off. -/
def brokenPage : String :=
  "<html><head><title>500 Internal Server Error</title></head><body>\n" ++
    "<h1>500 Internal Server Error</h1>\nServer got itself in trouble\n</body></html>\n"

/-- A request that breaks off is answered with that page, if it is answered with one. -/
theorem serverError_html {request : Request}
    (h : (Response.serverError request).contentType = (Response.page 500 "").contentType) :
    Response.serverError request = Response.page 500 brokenPage := by
  unfold Response.serverError at h ⊢
  simp only at h ⊢
  split at h
  · next haccepts =>
      rw [if_pos haccepts]
      rfl
  · exact absurd h (by decide)

/-! ### The error pages of a server -/

/-- What the handler of pages replies with an error, in a page: that the page is not found or
    cannot be read, with the angle brackets of its name, or that the request breaks off. -/
theorem Pages.Answers.error_page {pages : Pages} {tree : Tree} {request : Request}
    {name : String} {response : Response} (h : pages.Answers tree request name response)
    (htype : response.contentType = "text/html; charset=utf-8") (hstatus : response.status ≠ 200) :
    (response = Pages.missing name ∨ response = Pages.unreadable name) ∧
        angles response.body = angles name ∨
      response = Response.page 500 brokenPage := by
  cases h with
  | noPages | otherExtension | outside | noFile => exact .inl ⟨.inl rfl, angles_missing name⟩
  | unreadable => exact .inl ⟨.inr rfl, angles_unreadable name⟩
  | unresolved | tooLong => exact .inr (serverError_html htype)
  | page => exact absurd rfl hstatus

namespace Service

/-- Whatever the settings and the files of a server are and whatever target is asked for, a page
    with the status 404 or 500 names the page that was asked for, and its angle brackets are exactly
    those of that name in order; or it is the fixed page for requests that break off, which shows
    nothing of the request. And every name that is not empty, holds no line feed and, with each byte
    escaped, is not too long to be sent is one that a client can ask for. -/
theorem errorPage_brackets (service : Service) (tree : Tree) :
    (∀ request : Request, request.method = "GET" →
      (service.reply tree request).response.contentType = "text/html; charset=utf-8" →
      (service.reply tree request).response.status = 404 ∨
        (service.reply tree request).response.status = 500 →
      ∃ name : String, route request = .page name ∧
        (((service.reply tree request).response = Pages.missing name ∨
              (service.reply tree request).response = Pages.unreadable name) ∧
            angles (service.reply tree request).response.body = angles name ∨
          (service.reply tree request).response = Response.page 500 brokenPage)) ∧
      ∀ name : String, name ≠ "" → '\n' ∉ name.toList →
        (Http.escaped name.toList).length < Http.maxFieldSize →
          AsksForPage ⟨"GET", pageTarget name, [], []⟩ name := by
  refine ⟨fun request hget htype hstatus => ?_, fun name hname hline hsize =>
    asksForPage_pageTarget hname hline hsize⟩
  rcases route_get hget with ⟨name, hroute⟩ | hroute
  · have hne : (service.reply tree request).response.status ≠ 200 := by
      rcases hstatus with hstatus | hstatus <;> rw [hstatus] <;> decide
    have hanswers := service.pages.reply_answers tree request name
    rw [← reply_get hget hroute] at hanswers
    exact ⟨name, hroute, hanswers.error_page htype hne⟩
  · have hplain : (service.reply tree request).response.contentType =
        "text/plain; charset=utf-8" := by
      simp only [reply, replyWith, hroute, Response.sentTo]
      split <;> rfl
    rw [hplain] at htype
    exact absurd htype (by decide)

/-- Asked for a name in angle brackets, the usual server names it in a page as it is. -/
theorem reply_bold :
    (Service.usual.reply default ⟨"GET", "/%3Cb%3E", [], []⟩).response =
      Pages.missing "<b>" := by
  have hroute : route ⟨"GET", "/%3Cb%3E", [], []⟩ = .page "<b>" := by decide
  rw [reply_get rfl hroute]
  rfl

/-- The angle brackets of that page are those of the name. -/
theorem errorPage_brackets_bold :
    (Service.usual.reply default ⟨"GET", "/%3Cb%3E", [], []⟩).response.contentType =
        "text/html; charset=utf-8" ∧
      (Service.usual.reply default ⟨"GET", "/%3Cb%3E", [], []⟩).response.status = 404 ∧
      AsksForPage ⟨"GET", pageTarget "<b>", [], []⟩ "<b>" ∧
      angles (Service.usual.reply default ⟨"GET", "/%3Cb%3E", [], []⟩).response.body =
        ['<', '>'] := by
  have htype : (Service.usual.reply default ⟨"GET", "/%3Cb%3E", [], []⟩).response.contentType =
      "text/html; charset=utf-8" := by
    rw [reply_bold]
    rfl
  have hstatus : (Service.usual.reply default ⟨"GET", "/%3Cb%3E", [], []⟩).response.status =
      404 := by
    rw [reply_bold]
    rfl
  obtain ⟨hpages, hnames⟩ := errorPage_brackets Service.usual default
  obtain ⟨name, hname, ⟨-, hbrackets⟩ | hbroken⟩ := hpages _ rfl htype (.inl hstatus)
  · have hroute : route ⟨"GET", "/%3Cb%3E", [], []⟩ = .page "<b>" := by decide
    rw [hroute] at hname
    cases hname
    refine ⟨htype, hstatus, hnames "<b>" (by decide) (by decide) (by decide), ?_⟩
    rw [hbrackets]
    decide
  · rw [hbroken] at hstatus
    exact absurd hstatus (by decide)

/-- The page for a name that is not found holds angle brackets of the request. -/
theorem errorPage_bold :
    ({} : Settings).validate = .ok {} ∧ create .usual {} (some 1) default = .ok .usual ∧
      route ⟨"GET", "/%3Cb%3E", [], []⟩ = .page "<b>" ∧
      (Service.usual.reply default ⟨"GET", "/%3Cb%3E", [], []⟩).response =
        Response.page 404 "File \"/<b>\" not found!" ∧
      '<' ∈ (Service.usual.reply default ⟨"GET", "/%3Cb%3E", [], []⟩).response.body.toList := by
  have hpage : Pages.missing "<b>" = Response.page 404 "File \"/<b>\" not found!" := by decide
  refine ⟨rfl, rfl, by decide, reply_bold.trans hpage, ?_⟩
  rw [reply_bold, hpage]
  decide

end Service

end Abacus.Server
