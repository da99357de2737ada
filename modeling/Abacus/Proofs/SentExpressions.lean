/-
Module: Abacus.Proofs.SentExpressions
Purpose: Expressions sent to a server and the calculator itself. Whatever JSON text holds an
  expression, the server answers with the value that the calculator gives, or with the text and the
  kind of its report and one warning in the log, in both modes of dispatch and whatever was sent
  before; except that a text beyond the limits of its reader breaks the request off, whatever its
  expression is, and so does an answer in which a number has too many digits.
Main exports: HoldsExpression, PostsText, Reply.Agrees, Calculation.textReply_agrees,
  Service.calculation_agrees
-/
import Abacus.Proofs.CalculationReplies
import Abacus.Proofs.CompactWriting
import Abacus.Proofs.DispatchSessions
import Abacus.Proofs.EncodedText
import Abacus.Proofs.JsonDepth

namespace Abacus.Server

open Http (Request Response)

/-! ### Texts that hold an expression -/

/-- A text with another character written for each half of a pair of code units that stands alone;
    `paired` tells whether the unit before goes with this one. -/
def otherHalves (paired : Bool) : List Char → List Char
  | '\\' :: 'u' :: a :: b :: c :: d :: rest =>
      let high := unitSatisfies Json.isHighUnit [a, b, c, d]
      let low := unitSatisfies Json.isLowUnit [a, b, c, d]
      let joins := high && startsLow rest
      (if high && !joins || low && !paired then ['\\', 'u', 'f', 'f', 'f', 'e']
        else ['\\', 'u', a, b, c, d]) ++ otherHalves joins rest
  | '\\' :: letter :: rest => '\\' :: letter :: otherHalves false rest
  | c :: rest => c :: otherHalves false rest
  | [] => []
where
  /-- Whether digits are those of a code unit that satisfies a condition. -/
  unitSatisfies (condition : Nat → Bool) (digits : List Char) : Bool :=
    (Json.fourDigits? digits).any fun unit => condition unit.1
  /-- Whether a text starts with the escape of the second unit of a pair. -/
  startsLow : List Char → Bool
    | '\\' :: 'u' :: rest => unitSatisfies Json.isLowUnit rest
    | _ => false

/-- The expression of a text whose brackets may be nested as deep as `depth`, and whose numbers may
    have as many digits as `digits`. -/
def expressionAt? (digits depth : Nat) (text : List Char) : Option String :=
  match Json.readWithin digits depth text with
  | .ok (.object members) =>
      match members.lookup "expression" with
      | some (.string expression) => some expression
      | _ => none
  | _ => none

/-- A text is JSON for an object, and the last of its members with the name `expression` is a
    string. It may be written in any way of the grammar, or in another way that is read within some
    limits, with halves of pairs of code units in other members. That they are not in the expression
    shows when other characters are put in their place. -/
inductive HoldsExpression (expression : String) : List Char → Prop where
  | written {digits depth : Nat} {members : List (String × Json.Value)}
      {before gap inner behind : List Char}
      (hmembers : Json.ListText (Json.MemberText (Json.ValueText digits depth)) members inner)
      (hbefore : Json.IsGapText before) (hgap : Json.IsGapText gap)
      (hbehind : Json.IsGapText behind)
      (hlast : members.reverse.lookup "expression" = some (.string expression)) :
      HoldsExpression expression (before ++ ('\x7b' :: gap ++ inner ++ ['\x7d'] ++ behind))
  | read {digits depth : Nat} {text : List Char}
      (hread : expressionAt? digits depth text = some expression)
      (hwhole : expressionAt? digits depth (otherHalves false text) = some expression) :
      HoldsExpression expression text

theorem exists_read_of_expressionAt? {digits depth : Nat} {text : List Char} {expression : String}
    (h : expressionAt? digits depth text = some expression) :
    ∃ members : List (String × Json.Value),
      Json.readWithin digits depth text = .ok (.object members) ∧
      members.lookup "expression" = some (.string expression) := by
  unfold expressionAt? at h
  split at h
  · next members hread =>
      split at h
      · next found hlast =>
          cases h
          exact ⟨members, hread, hlast⟩
      · cases h
  · cases h

/-- Within some limits, the text is read as an object with the expression. -/
theorem HoldsExpression.exists_read {expression : String} {text : List Char}
    (h : HoldsExpression expression text) :
    ∃ (digits depth : Nat) (members : List (String × Json.Value)),
      Json.readWithin digits depth text = .ok (.object members) ∧
        members.lookup "expression" = some (.string expression) := by
  cases h with
  | read hread _ =>
      obtain ⟨members, hmembers, hlast⟩ := exists_read_of_expressionAt? hread
      exact ⟨_, _, members, hmembers, hlast⟩
  | @written digits depth members _ _ _ _ hmembers hbefore hgap hbehind hlast =>
      have hobject : Json.ValueText digits (depth + 1) (.object (Json.objectOf members)) _ :=
        .inr (.object hgap hmembers)
      refine ⟨digits, depth + 1, _, Json.readWithin_of_valueText hobject hbefore hbehind, ?_⟩
      rw [Json.lookup_objectOf, hlast]

section

variable {expression : String} {text : List Char} (h : HoldsExpression expression text)

include h

/-- A text that holds an expression is not blank. -/
theorem HoldsExpression.not_blank : ¬ Text.isBlankText text = true := by
  intro hblank
  obtain ⟨digits, depth, members, hread, _⟩ := h.exists_read
  rcases Json.readWithin_of_ok hread Text.maxDigits 0 with hzero | hexceeds
  · exact Json.readWithin_zero_ne_object _ text members hzero
  · exact Calculation.not_exceeds_of_blank hblank hexceeds

/-- The expression of a text is found unless the text is beyond the limits of its reader. -/
theorem HoldsExpression.expressionOf {depth : Nat} (hwithin : ¬ Json.Exceeds depth text) :
    Calculation.expressionOf depth text = .ok expression := by
  obtain ⟨digits, deep, members, hread, hlast⟩ := h.exists_read
  rcases Json.readWithin_of_ok hread Text.maxDigits depth with hfound | hexceeds
  · rw [Calculation.expressionOf, if_neg h.not_blank, Json.read, hfound]
    simp only [hlast]
  · exact absurd hexceeds hwithin

/-- A text that holds an expression is answerable if it is within the limits and the numbers of the
    answer to the expression can be written. -/
theorem HoldsExpression.isAnswerable_iff {depth : Nat} {calculator : Calculator} :
    Calculation.IsAnswerable depth calculator text ↔
      ¬ Json.Exceeds depth text ∧
        ∀ n ∈ calculator.answerNumbers expression, Text.IsWritable n := by
  constructor
  · exact fun hanswerable => ⟨hanswerable.within,
      hanswerable.writable expression (h.expressionOf hanswerable.within)⟩
  · rintro ⟨hwithin, hwritable⟩
    refine ⟨hwithin, fun other hother => ?_⟩
    cases (h.expressionOf hwithin).symm.trans hother
    exact hwritable

end

/-! ### Answers and the calculator -/

/-- A response is a success, and its body is read as an object with a result. -/
def GivesResult (response : Response) (n : Int) : Prop :=
  response.status = 200 ∧
    Json.read 1 response.body.toList = .ok (.object [("result", .whole n)])

/-- A response is a bad request, and its body is read as an object with an error and its kind. -/
def GivesError (response : Response) (message kind : String) : Prop :=
  response.status = 400 ∧ Json.read 1 response.body.toList =
    .ok (.object [("error", .string message), ("kind", .string kind)])

/-- The warnings of the handler of calculations. -/
def Reply.warnings (reply : Reply) : List Log.Record :=
  reply.records.filter fun record => record.level = .warning ∧ record.source = .calculation

/-- A reply tells what the calculator gives for an expression: its value, and there is no warning,
    or the text and the kind of its report, and there is one warning. -/
structure Reply.Agrees (reply : Reply) (calculator : Calculator) (expression : String) : Prop where
  result_iff (n : Int) : GivesResult reply.response n ↔ calculator.evaluate expression = .ok n
  error_iff (message kind : String) : GivesError reply.response message kind ↔
    ∃ (failure : Failure) (report : Report), calculator.evaluate expression = .error failure ∧
      failure.report? = some report ∧ report.text = message ∧ report.kind.name = kind
  settled : (∃ n : Int, GivesResult reply.response n ∧ reply.warnings = []) ∨
    ∃ message kind : String, GivesError reply.response message kind ∧ reply.warnings.length = 1

theorem givesResult_json {n : Int} (hn : Text.IsWritable n) :
    GivesResult (Response.json 200 (.object [("result", .whole n)])) n := by
  have hshort : n.natAbs < 10 ^ Text.maxDigits := Json.isWritable_iff_lt_pow.mp hn
  refine ⟨rfl, Json.readWithin_compact ?_⟩
  simpa [Json.IsExact] using hshort

theorem givesError_errorResponse (message kind : String) :
    GivesError (Calculation.errorResponse 400 message (some kind)) message kind := by
  refine ⟨rfl, Json.readWithin_compact ?_⟩
  simp [Json.IsExact]

/-- A response gives one result at most. -/
theorem GivesResult.unique {response : Response} {n m : Int} (h : GivesResult response n)
    (hother : GivesResult response m) : n = m := by
  have hsame := h.2.symm.trans hother.2
  cases hsame
  rfl

/-- A response gives one error at most. -/
theorem GivesError.unique {response : Response} {message kind other otherKind : String}
    (h : GivesError response message kind) (hother : GivesError response other otherKind) :
    message = other ∧ kind = otherKind := by
  have hsame := h.2.symm.trans hother.2
  cases hsame
  exact ⟨rfl, rfl⟩

theorem GivesResult.not_givesError {response : Response} {n : Int} (h : GivesResult response n)
    (message kind : String) : ¬ GivesError response message kind := by
  intro herror
  have hstatus := h.1.symm.trans herror.1
  cases hstatus

section

variable {calculator : Calculator} {expression : String} {reply : Reply}

theorem Reply.Agrees.of_value {n : Int} (h : calculator.evaluate expression = .ok n)
    (hgives : GivesResult reply.response n) (hwarnings : reply.warnings = []) :
    reply.Agrees calculator expression where
  result_iff m := by
    rw [h]
    constructor
    · intro hother
      rw [hgives.unique hother]
    · intro hsame
      cases hsame
      exact hgives
  error_iff message kind := by
    refine iff_of_false (hgives.not_givesError message kind) ?_
    rintro ⟨failure, _, hfailure, _⟩
    rw [h] at hfailure
    cases hfailure
  settled := .inl ⟨n, hgives, hwarnings⟩

theorem Reply.Agrees.of_failure {failure : Failure} {report : Report}
    (h : calculator.evaluate expression = .error failure) (hreport : failure.report? = some report)
    (hgives : GivesError reply.response report.text report.kind.name)
    (hwarnings : reply.warnings.length = 1) : reply.Agrees calculator expression where
  result_iff n := by
    refine iff_of_false (fun hresult => hresult.not_givesError _ _ hgives) fun hvalue => ?_
    rw [h] at hvalue
    cases hvalue
  error_iff message kind := by
    constructor
    · intro hother
      obtain ⟨htext, hkind⟩ := hgives.unique hother
      exact ⟨failure, report, h, hreport, htext, hkind⟩
    · rintro ⟨other, otherReport, hother, hsame, rfl, rfl⟩
      rw [h] at hother
      cases hother
      rw [hreport] at hsame
      cases hsame
      exact hgives
  settled := .inr ⟨_, _, hgives, hwarnings⟩

/-- A reply that tells what the calculator gives does not break off. -/
theorem Reply.Agrees.ne_serverError (h : reply.Agrees calculator expression) (request : Request) :
    reply.response ≠ Response.serverError request := by
  intro hbroken
  have hstatus := serverError_status request
  rw [← hbroken] at hstatus
  rcases h.settled with ⟨n, hgives, _⟩ | ⟨message, kind, hgives, _⟩
  · cases hstatus.symm.trans hgives.1
  · cases hstatus.symm.trans hgives.1

end

namespace Calculation

/-- The reply to a text that holds an expression tells what the calculator gives for it, if the text
    can be answered. -/
theorem textReply_agrees {depth : Nat} {calculator : Calculator} {text : List Char}
    {expression : String} (h : HoldsExpression expression text)
    (hanswerable : IsAnswerable depth calculator text) (request : Request) :
    (textReply depth request (fun expression => some (calculator.verdict expression)) text).Agrees
      calculator expression := by
  obtain ⟨hwithin, hwritable⟩ := h.isAnswerable_iff.mp hanswerable
  have hreported := calculator.evaluate_reported expression
  rw [textReply, h.expressionOf hwithin]
  cases hresult : calculator.evaluate expression with
  | ok n =>
      rw [Calculator.answerNumbers, hresult] at hwritable
      have hn : Text.IsWritable n := hwritable n List.mem_cons_self
      have hverdict : calculator.verdict expression = .value n := by
        rw [Calculator.verdict, hresult]
      simp only [Option.map_some, hverdict, verdictReply, if_pos hn]
      exact .of_value hresult (givesResult_json hn) rfl
  | error failure =>
      rw [hresult] at hreported
      rw [Calculator.answerNumbers, hresult] at hwritable
      obtain ⟨report, hreport⟩ :=
        Option.isSome_iff_exists.mp (hreported.isSome_report?_iff.mpr hwritable)
      have hinternal : report.kind ≠ .internal := by
        intro hkind
        exact absurd (hkind ▸ hreported.kind_mem hreport) (by decide)
      have hverdict : calculator.verdict expression = .refused report := by
        rw [Calculator.verdict, hresult]
        simp only [hreport]
      simp only [Option.map_some, hverdict, verdictReply, if_neg hinternal]
      exact .of_failure hresult hreport (givesError_errorResponse _ _) rfl

end Calculation

/-! ### Requests -/

/-- A request to calculate whose body is a text in UTF-8, which its content type says or leaves
    open. -/
structure PostsText (request : Request) (text : String) : Prop where
  route : route request = .calculation
  content : request.content = .ok text.toUTF8.toList
  charset : ∃ name : Option String,
    Http.charsetName ((request.header? "content-type").getD "") = .ok name ∧
      Charset.ofName? (name.getD "utf-8") = some .utf8

/-- The body of such a request is read as the text. -/
theorem PostsText.bodyText {request : Request} {text : String} (h : PostsText request text) :
    bodyText request = .ok text.toList := by
  obtain ⟨name, hname, hcharset⟩ := h.charset
  rw [Server.bodyText, h.content, hname]
  simp only [hcharset]
  have hdecode := Text.Utf8.decode_toUTF8 text
  by_cases hempty : text.toUTF8.toList = []
  · rw [hempty] at hdecode
    rw [if_pos hempty, ← Except.ok.inj hdecode]
  · rw [if_neg hempty]
    simp only [bind, Option.bind, Charset.decode?, hdecode]
    rfl

/-- A running server replies to the text of such a request. -/
theorem PostsText.reply {request : Request} {text : String} (h : PostsText request text)
    {service : Service} (hruns : service.dispatcher.accepts = true) (tree : Files.Tree) :
    service.reply tree request =
      Calculation.textReply service.brackets request
        (fun expression => some (service.calculator.verdict expression)) text.toList := by
  rw [Service.reply_of_route h.route hruns, calculate, h.bodyText]

/-- Every text below the limit is posted by a request without headers. -/
theorem postsText_plain {text : String} (hsize : text.toUTF8.toList.length < Http.maxBodySize) :
    PostsText ⟨"POST", "/calculate", [], text.toUTF8.toList⟩ text := by
  have hasks := asksToCalculate_plain hsize
  exact ⟨hasks.route, hasks.content, none, hasks.charset, by decide⟩

/-- With valid settings there is a worker at least. -/
theorem workerCount_pos {settings : Settings} (hvalid : settings.validate = .ok settings)
    (processors : Option Nat) : 0 < settings.workerCount processors := by
  have hfault : settings.fault? = none := by
    unfold Settings.validate at hvalid
    split at hvalid
    · cases hvalid
    · assumption
  unfold Settings.workerCount
  cases hworkers : settings.maxWorkers with
  | none =>
      simp only
      omega
  | some n =>
      by_contra hnone
      have hfew : n < 1 := by
        simp only at hnone
        omega
      unfold Settings.fault? at hfault
      split at hfault
      · cases hfault
      · rw [hworkers, Option.filter_some, if_pos (decide_eq_true hfew)] at hfault
        cases hfault

/-- There is a server for valid settings in both modes, as soon as there are its pages. -/
theorem exists_service {settings : Settings} (hvalid : settings.validate = .ok settings)
    {nesting : Nesting} {tree : Files.Tree} {pages : Pages}
    (hpages : Pages.create tree nesting.resourceLinks nesting.pageLinks settings.resourcePath
      settings.staticExtensions = .ok pages)
    (mode : DispatchMode) (processors : Option Nat) :
    ∃ service : Service,
      Service.create nesting { settings with dispatchMode := mode } processors tree =
          .ok service ∧
        service.calculator = ⟨settings.maxLiteral⟩ ∧ service.brackets = nesting.brackets ∧
        service.dispatcher.accepts = true := by
  have hworkers : 0 < { settings with dispatchMode := mode }.workerCount processors :=
    workerCount_pos hvalid processors
  refine ⟨⟨{ settings with dispatchMode := mode }, ⟨mode, mode == .pool⟩, pages, nesting.brackets⟩,
    ?_, rfl, rfl, ?_⟩
  · rw [Service.create, Dispatcher.create?_of_pos mode hworkers]
    simp only [hpages]
  · cases mode <;> rfl

/-! ### Main result -/

/-- A server and its calculator agree on every expression. Whatever JSON text holds the expression,
    with valid settings there is one reply to it in both modes of dispatch, on every machine and
    whatever is sent before and after. It is a success with the result exactly if the calculator
    gives that value, and a bad request with the error exactly if the calculator reports it, with
    one warning then and none otherwise; unless the text is beyond the limits of its reader or a
    number of the answer has too many digits, which breaks the request off. A text is within the
    limits if it has no more opening brackets than may be nested and no more digits in a row than a
    number may have. -/
theorem Service.calculation_agrees {settings : Settings}
    (hvalid : settings.validate = .ok settings) {nesting : Nesting} {tree : Files.Tree}
    {pages : Pages}
    (hpages : Pages.create tree nesting.resourceLinks nesting.pageLinks settings.resourcePath
      settings.staticExtensions = .ok pages)
    {request : Request} {text : String} (hposts : PostsText request text) {expression : String}
    (hholds : HoldsExpression expression text.toList) :
    let calculator : Calculator := ⟨settings.maxLiteral⟩
    let isAnswerable := ¬ Json.Exceeds nesting.brackets text.toList ∧
      ∀ n ∈ calculator.answerNumbers expression, Text.IsWritable n
    ∃ reply : Reply,
      (reply.Agrees calculator expression ↔ isAnswerable) ∧
      (¬ isAnswerable → reply.response = Response.serverError request) ∧
      (Json.openings text.toList ≤ nesting.brackets →
        Json.longestRun text.toList ≤ Text.maxDigits →
        (∀ n ∈ calculator.answerNumbers expression, Text.IsWritable n) →
        reply.Agrees calculator expression) ∧
      ∀ (mode : DispatchMode) (processors : Option Nat), ∃ service : Service,
        Service.create nesting { settings with dispatchMode := mode } processors tree =
          .ok service ∧
        service.reply tree request = reply ∧
        ∀ (earlier later : List Request) (sent : Request), received sent = .ok request →
          unknownExpectation? request = none →
          (service.answers service.calculator.verdict tree
            (earlier ++ sent :: later))[earlier.length]? = some reply := by
  intro calculator isAnswerable
  have hiff : Calculation.IsAnswerable nesting.brackets calculator text.toList ↔ isAnswerable :=
    hholds.isAnswerable_iff
  have hagrees := fun h => Calculation.textReply_agrees hholds (hiff.mpr h) request
  have hbroken := fun h => Calculation.textReply_broken request (mt hiff.mp h)
  -- The reply depends on the text alone; mode, processors and earlier requests come in last.
  refine ⟨_, ⟨fun hagree => ?_, hagrees⟩, hbroken, fun hfew hshort hwritable => ?_, ?_⟩
  · by_contra h
    exact hagree.ne_serverError request (hbroken h)
  · exact hagrees ⟨Json.not_exceeds hfew hshort, hwritable⟩
  · intro mode processors
    obtain ⟨service, hcreate, hcalculator, hbrackets, hruns⟩ :=
      exists_service hvalid hpages mode processors
    have hreply := hposts.reply hruns tree
    rw [hcalculator, hbrackets] at hreply
    refine ⟨service, hcreate, hreply, fun earlier later sent hreceived hexpectation => ?_⟩
    have hsent : (earlier ++ sent :: later)[earlier.length]? = some sent := by simp
    have hanswer : service.answer service.calculator.verdict tree sent =
        service.reply tree request := by
      rw [Service.answer, hreceived]
      simp only [hexpectation]
      rfl
    rw [Service.answers, List.getElem?_map, hsent, ← hreply, ← hanswer]
    rfl

/-- A sum with an escape in it, sent behind another member. -/
theorem Service.calculation_agrees_sum :
    let text := "\x7b\"x\": [1], \"expression\": \"1\\u002b2\"\x7d"
    let request : Request := ⟨"POST", "/calculate", [], text.toUTF8.toList⟩
    ({} : Settings).validate = .ok {} ∧
      Pages.create default Nesting.usual.resourceLinks Nesting.usual.pageLinks "" [".html"] =
        .ok ⟨none, [".html"], Nesting.usual.pageLinks⟩ ∧
      PostsText request text ∧ HoldsExpression "1+2" text.toList ∧
      ∃ service : Service, Service.create .usual {} (some 1) default = .ok service ∧
        GivesResult (service.reply default request).response 3 ∧
        (service.reply default request).warnings = [] := by
  intro text request
  have hvalid : ({} : Settings).validate = .ok {} := rfl
  have hpages :
      Pages.create default Nesting.usual.resourceLinks Nesting.usual.pageLinks "" [".html"] =
        .ok ⟨none, [".html"], Nesting.usual.pageLinks⟩ := by rfl
  have hposts : PostsText request text := by
    refine postsText_plain ?_
    decide +kernel
  have hholds : HoldsExpression "1+2" text.toList :=
    .read (by decide +kernel : expressionAt? 1 2 text.toList = some "1+2") (by decide +kernel)
  have hvalue : (⟨({} : Settings).maxLiteral⟩ : Calculator).evaluate "1+2" = .ok 3 := by
    decide +kernel
  have hwritable : ∀ n ∈ (⟨({} : Settings).maxLiteral⟩ : Calculator).answerNumbers "1+2",
      Text.IsWritable n := by
    rw [Calculator.answerNumbers, hvalue, List.forall_mem_singleton]
    decide +kernel
  obtain ⟨reply, -, -, hfew, hserved⟩ :=
    Service.calculation_agrees hvalid hpages hposts hholds
  have hagrees : reply.Agrees ⟨({} : Settings).maxLiteral⟩ "1+2" :=
    hfew (by decide) (by decide) hwritable
  obtain ⟨service, hcreate, hreply, _⟩ := hserved .pool (some 1)
  have hgives : GivesResult reply.response 3 := (hagrees.result_iff 3).mpr hvalue
  refine ⟨hvalid, hpages, hposts, hholds, service, hcreate, ?_, ?_⟩
  · rw [hreply]
    exact hgives
  · rw [hreply]
    rcases hagrees.settled with ⟨_, _, hnone⟩ | ⟨message, kind, herror, _⟩
    · exact hnone
    · exact absurd herror (hgives.not_givesError message kind)

/-- A sum, and behind it a member whose brackets are nested deeper than they are read. -/
def deepText : List Char :=
  "\x7b\"expression\": \"1+1\", \"x\": ".toList ++ List.replicate 1000 '[' ++
    List.replicate 1000 ']' ++ ['\x7d']

theorem deepText_holds : HoldsExpression "1+1" deepText :=
  .read (by decide +kernel : expressionAt? 1 1001 deepText = some "1+1") (by decide +kernel)

theorem deepText_exceeds : Json.Exceeds Nesting.usual.brackets deepText :=
  Calculation.expressionOf_eq_beyondLimits_iff.mp (by decide +kernel)

theorem deepText_size : (String.ofList deepText).toUTF8.toList.length < Http.maxBodySize := by
  simp only [Text.Utf8.toList_toUTF8, String.toList_ofList]
  decide +kernel

/-- The usual server gives no result for a sum, and no error, if its text is nested too deep. -/
theorem Service.deeply_nested_member :
    let text := String.ofList deepText
    let request : Request := ⟨"POST", "/calculate", [], text.toUTF8.toList⟩
    ({} : Settings).validate = .ok {} ∧
      Service.create .usual {} (some 1) default = .ok .usual ∧
      PostsText request text ∧ HoldsExpression "1+1" text.toList ∧
      Service.usual.calculator.evaluate "1+1" = .ok 2 ∧
      (Service.usual.reply default request).response =
        Response.plain 500 "500 Internal Server Error\n\nServer got itself in trouble" ∧
      ¬ GivesResult (Service.usual.reply default request).response 2 := by
  intro text request
  have hposts : PostsText request text := postsText_plain deepText_size
  have hholds : HoldsExpression "1+1" text.toList := by
    rw [String.toList_ofList]
    exact deepText_holds
  have hexceeds : Json.Exceeds Service.usual.brackets text.toList := by
    rw [String.toList_ofList]
    exact deepText_exceeds
  have hreply : (Service.usual.reply default request).response =
      Response.plain 500 "500 Internal Server Error\n\nServer got itself in trouble" := by
    rw [hposts.reply rfl]
    exact (Calculation.textReply_exceeds request _ hexceeds).trans (serverError_plain _ _ _)
  refine ⟨rfl, rfl, hposts, hholds, by decide +kernel, hreply, ?_⟩
  rw [hreply]
  rintro ⟨hstatus, _⟩
  cases hstatus

end Abacus.Server
