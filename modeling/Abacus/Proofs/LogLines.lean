/-
Module: Abacus.Proofs.LogLines
Purpose: Which requests break a line of the log. What is logged about a calculation quotes what was
  sent and stays on one line. What is logged about a page names the page as it was asked for, so a
  carriage return in the name is logged as it is; a line feed never gets there. Only a file that
  cannot be read is logged by its place, and that holds a line break only if a name in the tree
  does.
Main exports: OnLines, Calculation.onLines_calculate, Pages.onLines_reply_iff, Service.BreaksLine,
  Service.logged, Service.onLines_logged_iff
-/
import Abacus.Proofs.AskedNames
import Abacus.Proofs.MessageLines
import Abacus.Proofs.PageConfinement

namespace Abacus

/-! ### Places on one line -/

namespace Text

theorem mem_of_mem_pieces {mark c : Char} {text piece : List Char}
    (hpiece : piece ∈ pieces mark text) (hc : c ∈ piece) : c ∈ text := by
  induction text generalizing piece with
  | nil =>
      rw [pieces, List.mem_singleton] at hpiece
      rw [hpiece] at hc
      exact absurd hc List.not_mem_nil
  | cons d rest ih =>
      rw [pieces] at hpiece
      split at hpiece
      · rcases List.mem_cons.mp hpiece with rfl | hmore
        · exact absurd hc List.not_mem_nil
        · exact List.mem_cons_of_mem d (ih hmore hc)
      · split at hpiece
        · rw [List.mem_singleton.mp hpiece, List.mem_singleton] at hc
          rw [hc]
          exact List.mem_cons_self
        · next first more hpieces =>
            rw [hpieces] at ih
            rcases List.mem_cons.mp hpiece with rfl | hmore
            · rcases List.mem_cons.mp hc with rfl | hfirst
              · exact List.mem_cons_self
              · exact List.mem_cons_of_mem d (ih List.mem_cons_self hfirst)
            · exact List.mem_cons_of_mem d (ih (List.mem_cons_of_mem first hmore) hc)

theorem OneLine.intercalate {separator : List Char} (hseparator : OneLine separator)
    {texts : List (List Char)} (h : ∀ text ∈ texts, OneLine text) :
    OneLine (separator.intercalate texts) := by
  have hfrom : ∀ c ∈ separator.intercalate texts, ∃ text, OneLine text ∧ c ∈ text := by
    intro c hc
    rcases mem_of_mem_intercalate hc with hmem | ⟨text, htext, hmem⟩
    · exact ⟨separator, hseparator, hmem⟩
    · exact ⟨text, h text htext, hmem⟩
  constructor
  · intro hfeed
    obtain ⟨text, htext, hmem⟩ := hfrom _ hfeed
    exact htext.1 hmem
  · intro hreturn
    obtain ⟨text, htext, hmem⟩ := hfrom _ hreturn
    exact htext.2 hmem

end Text

open Text (IsLine)

namespace Files

theorem isLine_of_mem_names {path name : String} (h : IsLine path) (hname : name ∈ names path) :
    IsLine name := by
  obtain ⟨piece, hpiece, rfl⟩ := List.mem_map.mp hname
  rw [IsLine, String.toList_ofList]
  exact ⟨fun hc => h.1 (Text.mem_of_mem_pieces hpiece hc),
    fun hc => h.2 (Text.mem_of_mem_pieces hpiece hc)⟩

theorem isLine_text {place : Place} (h : ∀ name ∈ place, IsLine name) : IsLine place.text := by
  have hslash : Text.OneLine ['/'] := by decide
  have hnames : ∀ text ∈ place.map String.toList, Text.OneLine text := by
    intro text htext
    obtain ⟨name, hname, rfl⟩ := List.mem_map.mp htext
    exact h name hname
  rw [IsLine, toList_text]
  exact hslash.append (hslash.intercalate hnames)

/-- The names that a tree brings to its places stay on one line: those of the directory that paths
    are taken from, and those in the targets of links. -/
structure Tree.OnLines (tree : Tree) : Prop where
  home : ∀ name ∈ tree.home, IsLine name
  targets : ∀ (link : Place) (target : String), tree.target? link = some target → IsLine target

/-- In such a tree, a path on one line is resolved to a place on one line. -/
theorem Tree.OnLines.resolve {tree : Tree} (h : tree.OnLines) {depth : Nat} {base place : Place}
    {path : String} (hbase : ∀ name ∈ base, IsLine name) (hpath : IsLine path)
    (hresolve : tree.resolve depth base path = .ok place) : ∀ name ∈ place, IsLine name :=
  Tree.forall_mem_resolve
    (fun link target htarget _ => isLine_of_mem_names (h.targets link target htarget)) hbase
    (fun _ => isLine_of_mem_names hpath) hresolve

end Files

namespace Server

open Http (Request Response)
open Files (Place Tree)

/-- Every message among some records stays on one line. -/
def OnLines (records : List Log.Record) : Prop :=
  ∀ record ∈ records, IsLine record.message

@[simp] theorem onLines_nil : OnLines [] :=
  nofun

@[simp] theorem onLines_cons {record : Log.Record} {records : List Log.Record} :
    OnLines (record :: records) ↔ IsLine record.message ∧ OnLines records :=
  List.forall_mem_cons

@[simp] theorem onLines_append {first later : List Log.Record} :
    OnLines (first ++ later) ↔ OnLines first ∧ OnLines later :=
  List.forall_mem_append

/-! ### Calculations -/

theorem isLine_verdict {calculator : Calculator} {expression : String} {report : Report}
    (h : calculator.verdict expression = .refused report) : IsLine report.message := by
  unfold Calculator.verdict at h
  split at h
  · cases h
  · split at h
    · next hreport =>
        cases h
        exact Failure.isLine_report hreport
    · cases h

namespace Calculation

theorem onLines_verdictReply (calculator : Calculator) (expression : String) :
    OnLines (verdictReply expression (calculator.verdict expression)).2 := by
  cases hverdict : calculator.verdict expression with
  | value n =>
      unfold verdictReply
      simp only
      split <;> exact onLines_nil
  | broken => exact onLines_nil
  | refused report =>
      have hmessage := isLine_verdict hverdict
      have hshown := Text.isLine_quoted expression
      unfold verdictReply
      simp only
      split
      · simp only [onLines_cons, onLines_nil, and_true, record, Text.isLine_append]
        exact ⟨⟨⟨by decide, hshown⟩, by decide⟩, hmessage⟩
      · simp only [onLines_cons, onLines_nil, and_true, record, Text.isLine_append]
        exact ⟨⟨⟨by decide, hshown⟩, by decide⟩, hmessage⟩

/-- Whatever the text of a body is, what is logged about it stays on one line. -/
theorem onLines_textReply (depth : Nat) (request : Request) (dispatcher : Dispatcher)
    (calculator : Calculator) (text : List Char) :
    OnLines (textReply depth request (dispatcher.run calculator.verdict) text).records := by
  have hreceived : OnLines [record .debug
      s!"Received calculation request: {Text.quoted (String.ofList text)}"] := by
    simp only [onLines_cons, onLines_nil, and_true, record, Text.isLine_append]
    exact ⟨by decide, Text.isLine_quoted _⟩
  unfold textReply
  simp only
  split
  · split <;> exact hreceived
  · next expression _ =>
      have hverdict := onLines_verdictReply calculator expression
      have hboth := onLines_append.mpr ⟨hreceived, hverdict⟩
      unfold Dispatcher.run
      split
      · next heq =>
          split at heq
          · rw [Option.map_some, Option.some.injEq] at heq
            rw [heq] at hboth
            exact hboth
          · cases heq
      · next heq =>
          split at heq
          · rw [Option.map_some, Option.some.injEq] at heq
            rw [heq] at hboth
            exact hboth
          · cases heq
      · exact hreceived

theorem onLines_calculate (depth : Nat) (request : Request) (dispatcher : Dispatcher)
    (calculator : Calculator) :
    OnLines (calculate depth (dispatcher.run calculator.verdict) request).records := by
  unfold calculate
  split
  · exact onLines_nil
  · exact onLines_nil
  · exact onLines_textReply depth request dispatcher calculator _

end Calculation

/-! ### Pages -/

namespace Pages

/-- A name leads to a file that cannot be read, at the given place. -/
def FailsAt (pages : Pages) (tree : Tree) (name : String) (place : Place) : Prop :=
  ∃ (directory : Place) (reason : String), pages.Located tree name directory place ∧
    tree.isFile place.text = .ok true ∧ textAt tree place = .error reason

/-- A file that cannot be read is at one place only. -/
theorem FailsAt.located {pages : Pages} {tree : Tree} {name : String} {first second : Place}
    {directory : Place} (h : pages.FailsAt tree name first)
    (hplace : pages.Located tree name directory second) : first = second := by
  obtain ⟨other, _, hother, _, _⟩ := h
  have hdirectory := hother.resource
  rw [hplace.resource] at hdirectory
  cases hdirectory
  have hresolved := hother.resolved
  rw [hplace.resolved] at hresolved
  cases hresolved
  rfl

theorem isLine_reason {tree : Tree} {place : Place} {reason : String}
    (h : textAt tree place = .error reason) : IsLine reason := by
  unfold textAt at h
  split at h
  · cases h
    exact Files.isLine_message _ _
  · split at h
    · cases h
      exact Text.Utf8.isLine_message _
    · cases h

theorem isLine_received {name : String} :
    IsLine (record .debug s!"Received static file request: {name}").message ↔ IsLine name := by
  simp only [record, Text.isLine_append]
  exact and_iff_right (by decide)

theorem isLine_notFound {name : String} :
    IsLine (record .info s!"Static file not found: {name}").message ↔ IsLine name := by
  simp only [record, Text.isLine_append]
  exact and_iff_right (by decide)

theorem isLine_rejected {name : String} :
    IsLine (record .warning s!"Rejected path outside resource directory: {name}").message ↔
      IsLine name := by
  simp only [record, Text.isLine_append]
  exact and_iff_right (by decide)

theorem isLine_failed {tree : Tree} {place : Place} {reason : String}
    (h : textAt tree place = .error reason) :
    IsLine (record .warning s!"Failed to read static file {place.text}: {reason}").message ↔
      IsLine place.text := by
  simp only [record, Text.isLine_append]
  exact ⟨fun hline => hline.1.1.2, fun hline => ⟨⟨⟨by decide, hline⟩, by decide⟩, isLine_reason h⟩⟩

theorem onLines_placeOf {pages : Pages} {tree : Tree} {name : String} {found : Option Place}
    {records : List Log.Record} (h : pages.placeOf tree name = .ok (found, records))
    (hname : IsLine name) : OnLines records := by
  unfold placeOf at h
  split at h
  · cases h
    exact onLines_nil
  · split at h
    · cases h
      exact onLines_nil
    · split at h
      · cases h
      · split at h
        · cases h
          exact onLines_nil
        · cases h
          exact onLines_cons.mpr ⟨isLine_rejected.mpr hname, onLines_nil⟩

section

variable {pages : Pages} {tree : Tree} {name : String}

/-- The name that is asked for is logged as it is. -/
theorem received_mem_reply (request : Request) :
    record .debug s!"Received static file request: {name}" ∈
      (pages.reply tree request name).records := by
  unfold reply
  simp only
  split
  · exact List.mem_cons_self
  · exact List.mem_cons_self
  · split <;> exact List.mem_cons_self

/-- Unless there is a file that cannot be read, what is logged about a page names it alone. -/
theorem onLines_reply_of_not_failsAt (h : ∀ place : Place, ¬ pages.FailsAt tree name place)
    (request : Request) : OnLines (pages.reply tree request name).records ↔ IsLine name := by
  refine ⟨fun hlines => isLine_received.mp (hlines _ (received_mem_reply request)), fun hname => ?_⟩
  have hfirst := isLine_received.mpr hname
  have hlast : OnLines [record .info s!"Static file not found: {name}"] :=
    onLines_cons.mpr ⟨isLine_notFound.mpr hname, onLines_nil⟩
  unfold reply
  simp only
  split
  · exact onLines_cons.mpr ⟨hfirst, onLines_nil⟩
  · next hplace =>
      exact onLines_cons.mpr ⟨hfirst, onLines_append.mpr ⟨onLines_placeOf hplace hname, hlast⟩⟩
  · next place records hplace =>
      have hrecords := onLines_placeOf hplace hname
      split
      · exact onLines_cons.mpr ⟨hfirst, hrecords⟩
      · exact onLines_cons.mpr ⟨hfirst, onLines_append.mpr ⟨hrecords, hlast⟩⟩
      · next hfile =>
          obtain ⟨directory, hlocated⟩ := placeOf_located hplace
          cases htext : textAt tree place with
          | ok text =>
              simp only [fileReply, htext, List.append_nil]
              exact onLines_cons.mpr ⟨hfirst, hrecords⟩
          | error reason => exact absurd ⟨directory, reason, hlocated, hfile, htext⟩ (h place)

/-- Where a file cannot be read, its place is logged as well. -/
theorem onLines_reply_of_failsAt {place : Place} (h : pages.FailsAt tree name place)
    (request : Request) :
    OnLines (pages.reply tree request name).records ↔ IsLine name ∧ IsLine place.text := by
  obtain ⟨directory, reason, hplace, hfile, htext⟩ := h
  simp only [reply, hplace.placeOf, hfile, fileReply, htext, List.cons_append, List.nil_append,
    onLines_cons, isLine_received, isLine_failed htext, onLines_nil, and_true]

/-- What is logged about a page stays on one line exactly if the name that is asked for does, and
    if the place of a file does that cannot be read. -/
theorem onLines_reply_iff (request : Request) :
    OnLines (pages.reply tree request name).records ↔
      IsLine name ∧ ∀ place : Place, pages.FailsAt tree name place → IsLine place.text := by
  by_cases h : ∃ place : Place, pages.FailsAt tree name place
  · obtain ⟨place, hfails⟩ := h
    rw [onLines_reply_of_failsAt hfails]
    refine and_congr_right fun _ => ⟨fun hline other hother => ?_, fun hall => hall place hfails⟩
    obtain ⟨directory, _, hlocated, _, _⟩ := hfails
    rw [hother.located hlocated]
    exact hline
  · rw [onLines_reply_of_not_failsAt (not_exists.mp h)]
    exact (and_iff_left fun place hfails => absurd ⟨place, hfails⟩ h).symm

end

end Pages

/-! ### Servers -/

namespace Service

/-- What a client sends breaks a line of the log: it asks for a name with a carriage return, or for
    a file that cannot be read, at a place that does not stay on one line. -/
inductive BreaksLine (service : Service) (tree : Tree) (sent : Request) : Prop where
  | name {name : String} (hasks : AsksForPage sent name) (hreturn : '\r' ∈ name.toList)
  | place {name : String} {place : Place} (hasks : AsksForPage sent name)
      (hfails : service.pages.FailsAt tree name place) (hplace : ¬ IsLine place.text)

/-- All that a server logs from its start to its end while it answers requests, with the record of
    an interruption. -/
def logged (service : Service) (tree : Tree) (requests : List Request) : List Log.Record :=
  service.start ++
    (service.answers service.calculator.verdict tree requests).flatMap Reply.records ++
    interrupted ++ service.stop.2

section

variable {service : Service} {tree : Tree} {sent : Request}

theorem not_breaksLine_of_not_asks (h : ∀ name : String, ¬ AsksForPage sent name) :
    ¬ service.BreaksLine tree sent := by
  intro hbreaks
  cases hbreaks with
  | name hasks _ => exact h _ hasks
  | place hasks _ _ => exact h _ hasks

/-- A request for a page breaks a line if its name does or the place of a file does that cannot be
    read. -/
theorem breaksLine_iff_of_asks {name : String} (hasks : AsksForPage sent name) :
    service.BreaksLine tree sent ↔
      ¬ (IsLine name ∧ ∀ place : Place, service.pages.FailsAt tree name place →
        IsLine place.text) := by
  obtain ⟨request, hreceived, hexpectation, hroute⟩ := hasks
  have hsame : ∀ {other : String}, AsksForPage sent other → other = name := by
    intro other hother
    have hboth := (asksForPage_iff_route hreceived hexpectation).mp hother
    rw [hroute] at hboth
    cases hboth
    rfl
  constructor
  · rintro hbreaks ⟨hname, hplaces⟩
    cases hbreaks with
    | name hother hreturn =>
        cases hsame hother
        exact hname.2 hreturn
    | place hother hfails hplace =>
        cases hsame hother
        exact hplace (hplaces _ hfails)
  · intro h
    have hasks : AsksForPage sent name := ⟨request, hreceived, hexpectation, hroute⟩
    by_cases hreturn : '\r' ∈ name.toList
    · exact .name hasks hreturn
    · have hname : IsLine name := ⟨not_mem_newline_of_route hroute, hreturn⟩
      obtain ⟨place, hplace⟩ := not_forall.mp fun hplaces => h ⟨hname, hplaces⟩
      obtain ⟨hfails, hline⟩ := Classical.not_imp.mp hplace
      exact .place hasks hfails hline

theorem records_of_asks {request : Request} {name : String}
    (hreceived : received sent = .ok request) (hexpectation : unknownExpectation? request = none)
    (hroute : route request = .page name) (evaluate : String → Verdict) :
    (service.answer evaluate tree sent).records =
      (service.pages.reply tree request name).records := by
  simp only [answer, hreceived, hexpectation, replyWith, hroute]

/-- What is logged about a request stays on one line exactly if it does not break one. -/
theorem onLines_answer_iff :
    OnLines (service.answer service.calculator.verdict tree sent).records ↔
      ¬ service.BreaksLine tree sent := by
  unfold answer
  cases hreceived : received sent with
  | error fault =>
      refine iff_of_true onLines_nil (not_breaksLine_of_not_asks fun name hasks => ?_)
      obtain ⟨request, hrequest, _⟩ := hasks
      rw [hreceived] at hrequest
      cases hrequest
  | ok request =>
  simp only
  cases hexpectation : unknownExpectation? request with
  | some expected =>
      refine iff_of_true onLines_nil (not_breaksLine_of_not_asks fun name hasks => ?_)
      obtain ⟨other, hother, hnone, _⟩ := hasks
      rw [hreceived] at hother
      cases hother
      rw [hexpectation] at hnone
      cases hnone
  | none =>
  have hasks : ∀ {name : String}, AsksForPage sent name ↔ route request = .page name :=
    asksForPage_iff_route hreceived hexpectation
  unfold replyWith
  cases hroute : route request with
  | calculation =>
      refine iff_of_true (Calculation.onLines_calculate _ _ _ _)
        (not_breaksLine_of_not_asks fun name hname => ?_)
      rw [hasks, hroute] at hname
      cases hname
  | page name =>
      rw [breaksLine_iff_of_asks (hasks.mpr hroute), not_not]
      exact Pages.onLines_reply_iff request
  | notFound | methodNotAllowed =>
      refine iff_of_true onLines_nil (not_breaksLine_of_not_asks fun name hname => ?_)
      rw [hasks, hroute] at hname
      cases hname

end

theorem onLines_start {service : Service} (hhost : IsLine service.settings.host) :
    OnLines service.start := by
  have hport := Text.isLine_toString_int service.settings.port
  have hmode : IsLine service.dispatcher.mode.label := by
    cases service.dispatcher.mode <;> decide
  simp only [start, record, onLines_cons, onLines_nil, and_true, Text.isLine_append]
  exact ⟨⟨⟨⟨⟨by decide, hhost⟩, by decide⟩, hport⟩, by decide⟩, ⟨by decide, hmode⟩, by decide⟩

theorem onLines_stop (service : Service) : OnLines service.stop.2 := by
  unfold stop Dispatcher.shutdown
  simp only
  split <;> simp only [onLines_append, onLines_cons, onLines_nil] <;> decide

section

variable {nesting : Nesting} {settings : Settings} {processors : Option Nat} {tree : Tree}
  {service : Service} (hcreate : create nesting settings processors tree = .ok service)

include hcreate

theorem settings_of_create : service.settings = settings := by
  unfold create at hcreate
  split at hcreate
  · cases hcreate
  · split at hcreate
    · cases hcreate
    · cases hcreate
      rfl

/-- Where the names in the tree and the path of the directory stay on one line, a file that cannot
    be read is at a place that does not only if its name has a carriage return. -/
theorem isLine_of_failsAt (hpath : IsLine settings.resourcePath) (htree : tree.OnLines)
    {name : String} {place : Place} (hname : IsLine name)
    (hfails : service.pages.FailsAt tree name place) : IsLine place.text := by
  obtain ⟨directory, _, hlocated, _, _⟩ := hfails
  rcases (Pages.create_eq_ok (create_eq_ok hcreate)).2.2 with ⟨_, hnone⟩ | ⟨_, root, hroot, hsome⟩
  · have hresource := hlocated.resource
    rw [hnone] at hresource
    cases hresource
  · have hresource := hlocated.resource
    rw [hsome] at hresource
    cases hresource
    have hdirectory := htree.resolve htree.home hpath hroot
    exact Files.isLine_text (htree.resolve hdirectory hname hlocated.resolved)

/-- Everything that a server logs stays on one line, whatever requests it answers, exactly if none
    of them breaks a line. Where the names in its tree and the path of its directory stay on one
    line, these are the requests for names with a carriage return. -/
theorem onLines_logged_iff (hhost : IsLine settings.host) (requests : List Request) :
    (OnLines (service.logged tree requests) ↔
        ∀ sent ∈ requests, ¬ service.BreaksLine tree sent) ∧
      (IsLine settings.resourcePath → tree.OnLines → ∀ sent : Request,
        service.BreaksLine tree sent ↔
          ∃ name : String, AsksForPage sent name ∧ '\r' ∈ name.toList) := by
  constructor
  · rw [← settings_of_create hcreate] at hhost
    have hstart := onLines_start hhost
    have hstop := service.onLines_stop
    have hinterrupted : OnLines interrupted :=
      onLines_cons.mpr ⟨by decide, onLines_nil⟩
    have hanswers : OnLines
        ((service.answers service.calculator.verdict tree requests).flatMap Reply.records) ↔
          ∀ sent ∈ requests, ¬ service.BreaksLine tree sent := by
      simp only [OnLines, List.forall_mem_flatMap, answers, List.forall_mem_map]
      exact forall₂_congr fun sent _ => onLines_answer_iff
    simp only [logged, onLines_append, hstart, hstop, hinterrupted, hanswers, true_and, and_true]
  · intro hpath htree sent
    constructor
    · intro hbreaks
      cases hbreaks with
      | @name name hasks hreturn => exact ⟨name, hasks, hreturn⟩
      | @place name place hasks hfails hplace =>
          refine ⟨name, hasks, by_contra fun hreturn => hplace ?_⟩
          obtain ⟨request, _, _, hroute⟩ := hasks
          exact isLine_of_failsAt hcreate hpath htree
            ⟨not_mem_newline_of_route hroute, hreturn⟩ hfails
    · rintro ⟨name, hasks, hreturn⟩
      exact .name hasks hreturn

end

/-! ### Names with ends of lines -/

/-- A name with a carriage return is logged as it is. -/
theorem carriage_return_logged :
    ({} : Settings).validate = .ok {} ∧ create .usual {} (some 1) default = .ok .usual ∧
      IsLine ({} : Settings).host ∧ IsLine ({} : Settings).resourcePath ∧
      ⟨.debug, .pages, "Received static file request: a\rb"⟩ ∈
        Service.usual.logged default [⟨"GET", "/a%0Db", [], []⟩] ∧
      ¬ IsLine "Received static file request: a\rb" := by
  have hroute : route ⟨"GET", "/a%0Db", Http.plainFields, []⟩ = .page "a\rb" := by decide
  have htarget : "/a%0Db".toList = '/' :: ['a', '%', '0', 'D', 'b'] := by decide
  have hchars : ∀ c ∈ ['a', '%', '0', 'D', 'b'], Http.isTargetChar c = true :=
    List.all_eq_true.mp rfl
  have hsize : ['a', '%', '0', 'D', 'b'].length < Http.maxFieldSize := by decide
  obtain ⟨request, hreceived, hexpectation, hpage⟩ :=
    (asksForPage_get_iff htarget hchars hsize).mpr hroute
  have hrecord : Pages.record .debug ("Received static file request: " ++ "a\rb") ∈
      (Service.usual.answer Service.usual.calculator.verdict default
        ⟨"GET", "/a%0Db", [], []⟩).records := by
    rw [records_of_asks hreceived hexpectation hpage]
    exact Pages.received_mem_reply request
  have hmessage : "Received static file request: " ++ "a\rb" =
      "Received static file request: a\rb" := by
    decide
  rw [hmessage] at hrecord
  refine ⟨rfl, rfl, by decide, by decide, ?_, by decide⟩
  simp only [logged, List.mem_append, answers, List.map_cons, List.map_nil, List.flatMap_cons]
  exact .inl (.inl (.inr (.inl hrecord)))

/-- A name with a line feed is not that of a page, and nothing is logged about it. -/
theorem onLines_logged_line_feed :
    create .usual {} (some 1) default = .ok .usual ∧ IsLine ({} : Settings).host ∧
      OnLines (Service.usual.logged default [⟨"GET", "/a%0Ab", [], []⟩]) := by
  have hcreate : create .usual {} (some 1) default = .ok .usual := rfl
  have hhost : IsLine ({} : Settings).host := by decide
  have hroute : route ⟨"GET", "/a%0Ab", Http.plainFields, []⟩ = .notFound := by decide
  have htarget : "/a%0Ab".toList = '/' :: ['a', '%', '0', 'A', 'b'] := by decide
  have hchars : ∀ c ∈ ['a', '%', '0', 'A', 'b'], Http.isTargetChar c = true :=
    List.all_eq_true.mp rfl
  have hsize : ['a', '%', '0', 'A', 'b'].length < Http.maxFieldSize := by decide
  refine ⟨hcreate, hhost, (onLines_logged_iff hcreate hhost _).1.mpr ?_⟩
  refine List.forall_mem_singleton.mpr (not_breaksLine_of_not_asks fun name hasks => ?_)
  rw [asksForPage_get_iff htarget hchars hsize, hroute] at hasks
  cases hasks

end Service

end Server

end Abacus
