/-
Module: Abacus.Proofs.CalculationReplies
Purpose: What a running server replies to requests to calculate, for every sequence of bytes as
  their body. A body that is no UTF-8 and a body beyond the limits of its reader, for the nesting of
  brackets or for the digits of a number, are not answered: the request breaks off with the status
  of an internal error. So it does if a number of the answer has too many digits. Every other body
  is answered with a JSON object, with a result or as a bad request, whatever its text is and
  whatever its expression does: a calculator reports each of its failures, and none as internal.
Main exports: Answered, Calculation.IsAnswerable, AsksToCalculate, Service.reply_calculation
-/
import Abacus.Proofs.JsonNesting
import Abacus.Proofs.JsonWriting
import Abacus.Proofs.ReportedFailures
import Abacus.Server.Service

namespace Abacus.Server

open Http (Request Response)

/-! ### Answers -/

/-- A response is a JSON object, with the status of a success or of a bad request. -/
def Answered (response : Response) : Prop :=
  ∃ (status : Nat) (members : List (String × Json.Value)),
    (status = 200 ∨ status = 400) ∧ response = Response.json status (.object members)

theorem answered_errorResponse (message : String) (kind : Option String) :
    Answered (Calculation.errorResponse 400 message kind) :=
  ⟨400, _, .inr rfl, rfl⟩

theorem serverError_status (request : Request) : (Response.serverError request).status = 500 := by
  unfold Response.serverError
  simp only
  split <;> rfl

/-- A request that breaks off is not answered. -/
theorem not_answered_serverError (request : Request) :
    ¬ Answered (Response.serverError request) := by
  rintro ⟨status, members, hstatus, hresponse⟩
  have hbroken := serverError_status request
  rw [hresponse] at hbroken
  simp only [Response.json] at hbroken
  omega

namespace Calculation

section

variable {calculator : Calculator} {expression : String}

/-- The verdict on an expression is answered if the numbers of the answer can be written. -/
theorem verdictReply_answered
    (hshort : ∀ n ∈ calculator.answerNumbers expression, Text.IsWritable n) :
    ∃ (response : Response) (records : List Log.Record),
      verdictReply expression (calculator.verdict expression) = (some response, records) ∧
        Answered response := by
  have hreported := calculator.evaluate_reported expression
  cases hresult : calculator.evaluate expression with
  | ok n =>
      rw [Calculator.answerNumbers, hresult] at hshort
      rw [Calculator.verdict, hresult]
      simp only [verdictReply, if_pos (hshort n List.mem_cons_self)]
      exact ⟨_, _, rfl, 200, _, .inl rfl, rfl⟩
  | error failure =>
      rw [hresult] at hreported
      rw [Calculator.answerNumbers, hresult] at hshort
      obtain ⟨report, hreport⟩ :=
        Option.isSome_iff_exists.mp (hreported.isSome_report?_iff.mpr hshort)
      have hinternal : report.kind ≠ .internal := by
        intro hkind
        exact absurd (hkind ▸ hreported.kind_mem hreport) (by decide)
      rw [Calculator.verdict, hresult]
      simp only [hreport, verdictReply, if_neg hinternal]
      exact ⟨_, _, rfl, answered_errorResponse _ _⟩

/-- Otherwise there is no response to it, and nothing is logged. -/
theorem verdictReply_broken
    (hlong : ¬ ∀ n ∈ calculator.answerNumbers expression, Text.IsWritable n) :
    verdictReply expression (calculator.verdict expression) = (none, []) := by
  have hreported := calculator.evaluate_reported expression
  cases hresult : calculator.evaluate expression with
  | ok n =>
      rw [Calculator.answerNumbers, hresult, List.forall_mem_singleton] at hlong
      rw [Calculator.verdict, hresult]
      simp only [verdictReply, if_neg hlong]
  | error failure =>
      rw [hresult] at hreported
      rw [Calculator.answerNumbers, hresult, ← hreported.isSome_report?_iff,
        Option.not_isSome_iff_eq_none] at hlong
      rw [Calculator.verdict, hresult]
      simp only [hlong, verdictReply]

end

/-! ### Texts of bodies -/

/-- A text is within the limits of its reader, and so is the answer to its expression, if it holds
    one: the numbers that are shown in it can be written. -/
structure IsAnswerable (depth : Nat) (calculator : Calculator) (text : List Char) : Prop where
  within : ¬ Json.Exceeds depth text
  writable (expression : String) (h : expressionOf depth text = .ok expression) :
    ∀ n ∈ calculator.answerNumbers expression, Text.IsWritable n

section

variable {depth : Nat} {text : List Char}

/-- A text of white space is not refused for a limit. -/
theorem not_exceeds_of_blank (hblank : Text.isBlankText text = true) :
    ¬ Json.Exceeds depth text := by
  have hall : ∀ c ∈ text, Text.isBlank c = true := List.all_eq_true.mp hblank
  have hopenings : Json.openings text = 0 := by
    refine List.countP_eq_zero.mpr fun c hc hopening => ?_
    have hspace := hall c hc
    rcases Bool.or_eq_true_iff.mp hopening with hbracket | hbrace
    · rw [of_decide_eq_true hbracket] at hspace
      cases hspace
    · rw [of_decide_eq_true hbrace] at hspace
      cases hspace
  have hdigits : text.countP Text.isDigit = 0 :=
    List.countP_eq_zero.mpr fun c hc =>
      Bool.eq_false_iff.mp (Text.isDigit_of_isBlank (hall c hc))
  have hrun := hdigits ▸ Json.longestRun_le_countP text
  exact Json.not_exceeds (hopenings ▸ Nat.zero_le _) (Nat.le_trans hrun (Nat.zero_le _))

/-- The text of a body breaks the handler off exactly if it is beyond the limits of its reader. -/
theorem expressionOf_eq_beyondLimits_iff :
    expressionOf depth text = .error .beyondLimits ↔ Json.Exceeds depth text := by
  constructor
  · intro h
    unfold expressionOf at h
    split at h
    · cases h
    · split at h
      · next fault hread =>
          split at h
          · next hlimit => exact ⟨fault, hread, hlimit⟩
          · cases h
      · split at h
        · split at h <;> cases h
        · cases h
  · intro h
    have hblank : ¬ Text.isBlankText text = true := fun hblank => not_exceeds_of_blank hblank h
    obtain ⟨fault, hread, hlimit⟩ := h
    rw [expressionOf, if_neg hblank, hread]
    simp only [hlimit, if_true]

/-- A text that is no JSON object holds no expression. -/
theorem expressionOf_of_no_object (hwithin : ¬ Json.Exceeds depth text)
    (hobject : ∀ members : List (String × Json.Value),
      Json.read depth text ≠ .ok (.object members)) :
    expressionOf depth text =
      .error (if Text.isBlankText text then .blank else .malformed) := by
  unfold expressionOf
  split
  · rfl
  · split
    · next fault hread =>
        have hother : fault.reason.isLimit ≠ true := fun h => hwithin ⟨fault, hread, h⟩
        rw [if_neg hother]
    · next document hread =>
        split
        · next members => exact absurd hread (hobject members)
        · rfl

variable (request : Request)

theorem textReply_exceeds (evaluate : String → Option Verdict) (h : Json.Exceeds depth text) :
    (textReply depth request evaluate text).response = Response.serverError request := by
  rw [textReply, expressionOf_eq_beyondLimits_iff.mpr h]
  rfl

theorem textReply_of_no_object (evaluate : String → Option Verdict)
    (hwithin : ¬ Json.Exceeds depth text)
    (hobject : ∀ members : List (String × Json.Value),
      Json.read depth text ≠ .ok (.object members)) :
    (textReply depth request evaluate text).response =
      errorResponse 400 (if Text.isBlankText text then "No expression was provided."
        else "Request body is not valid JSON") none := by
  rw [textReply, expressionOf_of_no_object hwithin hobject]
  cases Text.isBlankText text <;> rfl

variable {calculator : Calculator}

/-- A text within the limits is answered. -/
theorem textReply_answered (h : IsAnswerable depth calculator text) :
    Answered (textReply depth request (fun expression => some (calculator.verdict expression))
      text).response := by
  unfold textReply
  split
  · next fault hfault =>
      cases fault with
      | beyondLimits => exact absurd (expressionOf_eq_beyondLimits_iff.mp hfault) h.within
      | blank | malformed | noExpression => exact answered_errorResponse _ _
  · next expression hexpression =>
      obtain ⟨response, records, hreply, hanswered⟩ :=
        verdictReply_answered (h.writable expression hexpression)
      simp only [Option.map_some, hreply]
      exact hanswered

/-- Every other text breaks the handler off. -/
theorem textReply_broken (h : ¬ IsAnswerable depth calculator text) :
    (textReply depth request (fun expression => some (calculator.verdict expression))
      text).response = Response.serverError request := by
  by_cases hexceeds : Json.Exceeds depth text
  · exact textReply_exceeds request _ hexceeds
  · obtain ⟨expression, hexpression, hlong⟩ : ∃ expression : String,
        expressionOf depth text = .ok expression ∧
          ¬ ∀ n ∈ calculator.answerNumbers expression, Text.IsWritable n := by
      by_contra hnone
      refine h ⟨hexceeds, fun expression hexpression => ?_⟩
      by_contra hlong
      exact hnone ⟨expression, hexpression, hlong⟩
    rw [textReply, hexpression]
    simp only [Option.map_some, verdictReply_broken hlong]
    rfl

end

end Calculation

/-! ### Requests to calculate -/

/-- Only requests to post something are requests to calculate. -/
theorem method_of_route {request : Request} (hroute : route request = .calculation) :
    request.method = "POST" := by
  unfold Server.route at hroute
  simp only at hroute
  split at hroute
  · next hboth => exact hboth.2
  · split at hroute
    · split at hroute <;> cases hroute
    · cases hroute

/-- A running server evaluates the expression of a request to calculate. -/
theorem Service.reply_of_route {service : Service} {request : Request}
    (hroute : route request = .calculation) (hruns : service.dispatcher.accepts = true)
    (tree : Files.Tree) :
    service.reply tree request =
      calculate service.brackets
        (fun expression => some (service.calculator.verdict expression)) request := by
  have hrun : service.dispatcher.run service.calculator.verdict =
      fun expression => some (service.calculator.verdict expression) := by
    funext expression
    rw [Dispatcher.run, if_pos hruns]
  have hmethod : request.method ≠ "HEAD" := by
    rw [method_of_route hroute]
    decide
  simp only [Service.reply, Service.replyWith, hroute, Response.sentTo, if_neg hmethod, hrun]

/-- A request to calculate with the content of its body; its content type names no charset. -/
structure AsksToCalculate (request : Request) (content : List UInt8) : Prop where
  route : route request = .calculation
  content : request.content = .ok content
  charset : Http.charsetName ((request.header? "content-type").getD "") = .ok none

/-- Every sequence of bytes below the limit is the content of a request without headers. -/
theorem asksToCalculate_plain {body : List UInt8} (hsize : body.length < Http.maxBodySize) :
    AsksToCalculate ⟨"POST", "/calculate", [], body⟩ body where
  route := by
    have hpath : Http.unescapePath ((Http.targetPath? "POST" "/calculate".toList).getD []) =
        calculationPath := by
      decide
    simp only [Server.route, hpath, and_self, if_true]
  content := by
    have hcoding : Request.coding? ⟨"POST", "/calculate", [], body⟩ = none := rfl
    rw [Request.content, hcoding]
    simp only [pure_bind, if_neg (Nat.not_le.mpr hsize)]
    rfl
  charset := by
    have hnone : Http.charsetName "" = .ok none := by decide +kernel
    exact hnone

section

variable {request : Request} {content : List UInt8} (h : AsksToCalculate request content)

include h

/-- The text of a body without a charset is read as UTF-8. -/
theorem AsksToCalculate.bodyText :
    bodyText request =
      match Text.Utf8.decode content with
      | .ok text => .ok text
      | .error _ => .error .unreadable := by
  have hcharset : Charset.ofName? ((none : Option String).getD "utf-8") = some .utf8 := by
    decide
  rw [Server.bodyText, h.content, h.charset]
  simp only [hcharset]
  cases content with
  | nil => rfl
  | cons byte rest =>
      rw [if_neg (List.cons_ne_nil byte rest)]
      simp only [bind, Option.bind, Charset.decode?]
      cases Text.Utf8.decode (byte :: rest) <;> rfl

variable {service : Service} (hruns : service.dispatcher.accepts = true) (tree : Files.Tree)

include hruns

/-- The reply of a running server to a request to calculate. -/
theorem AsksToCalculate.reply :
    (service.reply tree request).response =
      match Text.Utf8.decode content with
      | .ok text =>
          (Calculation.textReply service.brackets request
            (fun expression => some (service.calculator.verdict expression)) text).response
      | .error _ => Response.serverError request := by
  rw [Service.reply_of_route h.route hruns, calculate, h.bodyText]
  cases Text.Utf8.decode content <;> rfl

/-- A running server answers a body in UTF-8 whose text is within the limits. -/
theorem AsksToCalculate.answered {text : List Char} (htext : Text.Utf8.decode content = .ok text)
    (hanswerable : Calculation.IsAnswerable service.brackets service.calculator text) :
    Answered (service.reply tree request).response := by
  rw [h.reply hruns, htext]
  exact Calculation.textReply_answered request hanswerable

/-- On every other body the request breaks off. -/
theorem AsksToCalculate.broken
    (hnone : ¬ ∃ text : List Char, Text.Utf8.decode content = .ok text ∧
      Calculation.IsAnswerable service.brackets service.calculator text) :
    (service.reply tree request).response = Response.serverError request := by
  rw [h.reply hruns]
  cases htext : Text.Utf8.decode content with
  | error fault => rfl
  | ok text =>
      exact Calculation.textReply_broken request fun hanswerable =>
        hnone ⟨text, htext, hanswerable⟩

/-- A running server answers exactly the bodies in UTF-8 whose text is within the limits. -/
theorem AsksToCalculate.answered_iff :
    Answered (service.reply tree request).response ↔
      ∃ text : List Char, Text.Utf8.decode content = .ok text ∧
        Calculation.IsAnswerable service.brackets service.calculator text := by
  constructor
  · intro hanswered
    by_contra hnone
    rw [h.broken hruns tree hnone] at hanswered
    exact not_answered_serverError request hanswered
  · rintro ⟨text, htext, hanswerable⟩
    exact h.answered hruns tree htext hanswerable

/-- A running server does not answer a body whose text is beyond the limits of its reader. -/
theorem AsksToCalculate.not_answered {text : List Char}
    (htext : Text.Utf8.decode content = .ok text) (hexceeds : Json.Exceeds service.brackets text) :
    ¬ Answered (service.reply tree request).response := by
  intro hanswered
  obtain ⟨other, hother, hanswerable⟩ := (h.answered_iff hruns tree).mp hanswered
  cases htext.symm.trans hother
  exact hanswerable.within hexceeds

end

/-- The replies of a running server to requests to calculate, whatever bytes the body has. Either
    the request is answered with a JSON object, as a success or as a bad request, or it breaks off
    with an internal error. It is answered exactly if the body is UTF-8, its brackets are not nested
    too deep, none of its whole numbers has too many digits, and neither has a number of the answer.
    A body with no more opening brackets than may be nested and no more digits in a row than a
    number may have is within these limits; a body of opening brackets alone, more than may be
    nested, is not, nor is a number alone with too many digits. And of the bodies within the limits,
    each one that is no JSON object is answered as a bad request. -/
theorem Service.reply_calculation {service : Service} {request : Request} {content : List UInt8}
    (hruns : service.dispatcher.accepts = true) (h : AsksToCalculate request content)
    (tree : Files.Tree) :
    let response := (service.reply tree request).response
    (Answered response ∨ response = Response.serverError request) ∧
    (Answered response ↔
      ∃ text : List Char, Text.Utf8.decode content = .ok text ∧
        Calculation.IsAnswerable service.brackets service.calculator text) ∧
    (∀ text : List Char, Text.Utf8.decode content = .ok text →
      Json.openings text ≤ service.brackets → Json.longestRun text ≤ Text.maxDigits →
      (∀ expression : String, Calculation.expressionOf service.brackets text = .ok expression →
        ∀ n ∈ service.calculator.answerNumbers expression, Text.IsWritable n) →
      Answered response) ∧
    (∀ count : Nat, service.brackets < count →
      Text.Utf8.decode content = .ok (List.replicate count '[') → ¬ Answered response) ∧
    (∀ n : Int, ¬ Text.IsWritable n →
      Text.Utf8.decode content = .ok (toString n).toList → ¬ Answered response) ∧
    (∀ text : List Char, Text.Utf8.decode content = .ok text →
      ¬ Json.Exceeds service.brackets text →
      (∀ members : List (String × Json.Value),
        Json.read service.brackets text ≠ .ok (.object members)) →
      response = Calculation.errorResponse 400
        (if Text.isBlankText text then "No expression was provided."
          else "Request body is not valid JSON") none) := by
  intro response
  have hiff := h.answered_iff hruns tree
  refine ⟨?_, hiff, ?_, ?_, ?_, ?_⟩
  · by_cases hanswered : Answered response
    · exact .inl hanswered
    · exact .inr (h.broken hruns tree fun hsome => hanswered (hiff.mpr hsome))
  · intro text htext hfew hshort hwritable
    exact hiff.mpr ⟨text, htext, Json.not_exceeds hfew hshort, hwritable⟩
  · intro count hcount hopened
    exact h.not_answered hruns tree hopened (Json.readWithin_opened hcount)
  · intro n hlong hnumber
    rw [Json.isWritable_iff_lt_pow, Nat.not_lt] at hlong
    exact h.not_answered hruns tree hnumber (Json.readWithin_toString_error hlong _)
  · intro text htext hwithin hobject
    have hreply := h.reply hruns tree
    rw [htext] at hreply
    exact hreply.trans (Calculation.textReply_of_no_object request _ hwithin hobject)

/-- How deep a server may nest what it reads in a program that does little else. -/
def Nesting.usual : Nesting :=
  ⟨981, 980, 950⟩

/-- The server of the usual settings; it has no pages. -/
def Service.usual : Service :=
  ⟨{}, ⟨.pool, true⟩, ⟨none, [".html"], Nesting.usual.pageLinks⟩, Nesting.usual.brackets⟩

/-- The usual server answers a sum. -/
theorem Service.reply_calculation_sum :
    let body := "\x7b\"expression\": \"1+2\"\x7d".toUTF8.toList
    Service.create .usual {} (some 1) default = .ok .usual ∧
      Service.usual.dispatcher.accepts = true ∧
      AsksToCalculate ⟨"POST", "/calculate", [], body⟩ body ∧
      Answered (Service.usual.reply default ⟨"POST", "/calculate", [], body⟩).response := by
  have hsize : "\x7b\"expression\": \"1+2\"\x7d".toUTF8.toList.length < Http.maxBodySize := by
    decide +kernel
  have hdecode : Text.Utf8.decode "\x7b\"expression\": \"1+2\"\x7d".toUTF8.toList =
      .ok "\x7b\"expression\": \"1+2\"\x7d".toList := by
    decide +kernel
  have hread : Calculation.expressionOf Service.usual.brackets
      "\x7b\"expression\": \"1+2\"\x7d".toList = .ok "1+2" := by
    decide +kernel
  have hasks := asksToCalculate_plain hsize
  refine ⟨rfl, rfl, hasks, ?_⟩
  refine (Service.reply_calculation rfl hasks default).2.2.1 _ hdecode (by decide) (by decide) ?_
  intro expression hexpression
  cases hread.symm.trans hexpression
  decide +kernel

/-- What a request without headers is answered when it breaks off. -/
theorem serverError_plain (method target : String) (body : List UInt8) :
    Response.serverError ⟨method, target, [], body⟩ =
      Response.plain 500 "500 Internal Server Error\n\nServer got itself in trouble" := by
  have hsplit : "".splitOn "text/html" = [""] := by
    rw [String.splitOn, if_neg (by decide), String.splitOnAux]
    rfl
  have haccepted : (Request.header? ⟨method, target, [], body⟩ "accept").getD "" = "" := rfl
  simp only [Response.serverError, haccepted, hsplit]
  rfl

/-- The usual server does not answer a body that is not UTF-8. -/
theorem Service.undecodable_body :
    ({} : Settings).validate = .ok {} ∧
      Service.create .usual {} (some 1) default = .ok .usual ∧
      (Service.usual.reply default ⟨"POST", "/calculate", [], [0xFF]⟩).response =
        Response.plain 500 "500 Internal Server Error\n\nServer got itself in trouble" ∧
      ¬ Answered (Service.usual.reply default ⟨"POST", "/calculate", [], [0xFF]⟩).response := by
  have hasks : AsksToCalculate ⟨"POST", "/calculate", [], [0xFF]⟩ [0xFF] :=
    asksToCalculate_plain (by decide)
  have hruns : Service.usual.dispatcher.accepts = true := rfl
  have hdecode : Text.Utf8.decode [0xFF] = .error ⟨0, 1, 0xFF, .invalidStart⟩ := by
    decide
  have hreply := hasks.reply hruns default
  rw [hdecode] at hreply
  refine ⟨rfl, rfl, hreply.trans (serverError_plain _ _ _), ?_⟩
  rw [hreply]
  exact not_answered_serverError _

end Abacus.Server
