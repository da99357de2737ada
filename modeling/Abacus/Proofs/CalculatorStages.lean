/-
Module: Abacus.Proofs.CalculatorStages
Purpose: The three stages of an evaluation, each in terms of the one before. The tokens of a text
  stand between two sentinels; their postfix order is that of the shunting yard; and the exact
  value is that of the postfix order. The postfix order as a text is that of its tokens.
Main exports: Calculator.tokens_frame, Calculator.toPostfix_of_body,
  Calculator.evaluateExact_of_body, Calculator.formatPostfix_of_toPostfix
-/
import Abacus.Proofs.ScanText

namespace Abacus.Calculator

variable {calculator : Calculator} {expression : String}

theorem tokens_of_scan {tokens : List Token}
    (h : scan calculator.maxLiteral 0 expression.toList = .ok tokens) :
    calculator.tokens expression = .ok (⟨.begin, 0⟩ :: tokens) := by
  rw [Calculator.tokens, tokenize, h]
  rfl

theorem tokens_of_scan_error {fault : ScanFault}
    (h : scan calculator.maxLiteral 0 expression.toList = .error fault) :
    calculator.tokens expression = .error (.scan fault) := by
  rw [Calculator.tokens, tokenize, h]
  rfl

/-- The tokens of a text are framed by the two sentinels, and none stands between these. -/
theorem tokens_frame {tokens : List Token} (h : calculator.tokens expression = .ok tokens) :
    ∃ body : List Token,
      tokens = ⟨.begin, 0⟩ :: body ++ [⟨.finish, (expression.length : Nat)⟩] ∧
        ∀ token ∈ body, token.IsInner := by
  cases hscan : scan calculator.maxLiteral 0 expression.toList with
  | error fault =>
      rw [tokens_of_scan_error hscan] at h
      cases h
  | ok scanned =>
      rw [tokens_of_scan hscan] at h
      cases h
      obtain ⟨body, rfl, hinner⟩ := scan_frame hscan
      rw [Nat.zero_add, String.length_toList]
      exact ⟨body, rfl, hinner⟩

/-- The scan of a text with tokens gives these between the two sentinels. -/
theorem scan_of_tokens {body : List Token} {finish : Int}
    (h : calculator.tokens expression = .ok (⟨.begin, 0⟩ :: body ++ [⟨.finish, finish⟩])) :
    scan calculator.maxLiteral 0 expression.toList = .ok (body ++ [⟨.finish, finish⟩]) := by
  cases hscan : scan calculator.maxLiteral 0 expression.toList with
  | error fault =>
      rw [tokens_of_scan_error hscan] at h
      cases h
  | ok scanned =>
      rw [tokens_of_scan hscan] at h
      cases h
      rfl

theorem toPostfix_of_tokens {tokens : List Token} (h : calculator.tokens expression = .ok tokens) :
    calculator.toPostfix expression = (Abacus.toPostfix tokens).mapError .conversion := by
  rw [toPostfix, h]
  rfl

theorem evaluateExact_of_toPostfix {tokens : List Token}
    (h : calculator.toPostfix expression = .ok tokens) :
    calculator.evaluateExact expression = (postfixValue tokens).mapError .evaluation := by
  rw [evaluateExact, h]
  rfl

theorem evaluateExact_of_toPostfix_error {failure : Failure}
    (h : calculator.toPostfix expression = .error failure) :
    calculator.evaluateExact expression = .error failure := by
  rw [evaluateExact, h]
  rfl

theorem evaluateExact_of_tokens_error {failure : Failure}
    (h : calculator.tokens expression = .error failure) :
    calculator.evaluateExact expression = .error failure := by
  rw [evaluateExact, toPostfix, h]
  rfl

theorem formatPostfix_of_toPostfix {tokens : List Token}
    (h : calculator.toPostfix expression = .ok tokens) :
    calculator.formatPostfix expression =
      if ∀ token ∈ tokens, token.IsShort then .ok (plainForm tokens)
      else .error .unwritable := by
  rw [formatPostfix, h]
  simp only [bind, Except.bind, formatTokens?_eq]
  by_cases hshort : ∀ token ∈ tokens, token.IsShort
  · rw [if_pos hshort, if_pos hshort]
  · rw [if_neg hshort, if_neg hshort]

theorem formatPostfix_of_toPostfix_error {failure : Failure}
    (h : calculator.toPostfix expression = .error failure) :
    calculator.formatPostfix expression = .error failure := by
  rw [formatPostfix, h]
  rfl

variable {body : List Token} {finish : Int}

/-- The postfix order of a text whose tokens are known. -/
theorem toPostfix_of_body (hinner : ∀ token ∈ body, token.IsInner)
    (h : calculator.tokens expression = .ok (⟨.begin, 0⟩ :: body ++ [⟨.finish, finish⟩])) :
    calculator.toPostfix expression =
      match shuntingYard body ⟨.finish, finish⟩ with
      | .ok tokens => .ok tokens
      | .error culprit => .error (.conversion (.unexpected culprit)) := by
  rw [toPostfix_of_tokens h, shuntingYard]
  cases hput : Yard.putAll ⟨[], []⟩ body with
  | error culprit =>
      rw [toPostfix_of_putAll_error 0 hinner hput]
      rfl
  | ok yard =>
      rw [toPostfix_of_putAll 0 hput]
      cases hclose : yard.close ⟨.finish, finish⟩ with
      | error culprit => simp only [hclose]; rfl
      | ok tokens => simp only [hclose]; rfl

/-- The postfix order of a literal is the literal. -/
theorem toPostfix_literal {digits : List Char} (hnonempty : digits ≠ [])
    (hdigits : ∀ c ∈ digits, Text.isDigit c = true)
    (hbound : (digitsValue digits : Int) ≤ calculator.maxLiteral) :
    calculator.toPostfix (String.ofList digits) = .ok [⟨.operand (digitsValue digits), 0⟩] := by
  have hscan : scan calculator.maxLiteral 0 (String.ofList digits).toList =
      .ok ([⟨.operand (digitsValue digits), 0⟩] ++ [⟨.finish, (0 + digits.length : Nat)⟩]) := by
    rw [String.toList_ofList]
    exact scan_literal hnonempty hdigits hbound 0
  exact toPostfix_of_body (by simp [Token.IsInner]) (tokens_of_scan hscan)

/-- A text with a postfix order has tokens, and their postfix order is that of the shunting
    yard. -/
theorem yard_of_toPostfix {listing : List Token}
    (h : calculator.toPostfix expression = .ok listing) :
    ∃ body : List Token,
      calculator.tokens expression =
        .ok (⟨.begin, 0⟩ :: body ++ [⟨.finish, (expression.length : Nat)⟩]) ∧
      (∀ token ∈ body, token.IsInner) ∧
        shuntingYard body ⟨.finish, (expression.length : Nat)⟩ = .ok listing := by
  cases htokens : calculator.tokens expression with
  | error failure =>
      rw [toPostfix, htokens] at h
      cases h
  | ok tokens =>
      obtain ⟨body, rfl, hinner⟩ := tokens_frame htokens
      rw [toPostfix_of_body hinner htokens] at h
      refine ⟨body, rfl, hinner, ?_⟩
      split at h
      · next found hfound =>
          cases h
          exact hfound
      · cases h

/-- The exact value of a text whose tokens are known. -/
theorem evaluateExact_of_body (hinner : ∀ token ∈ body, token.IsInner)
    (h : calculator.tokens expression = .ok (⟨.begin, 0⟩ :: body ++ [⟨.finish, finish⟩])) :
    calculator.evaluateExact expression =
      match shuntingYard body ⟨.finish, finish⟩ with
      | .ok tokens => (postfixValue tokens).mapError .evaluation
      | .error culprit => .error (.conversion (.unexpected culprit)) := by
  have horder := toPostfix_of_body hinner h
  cases hyard : shuntingYard body ⟨.finish, finish⟩ with
  | ok tokens =>
      rw [hyard] at horder
      exact evaluateExact_of_toPostfix horder
  | error culprit =>
      rw [hyard] at horder
      exact evaluateExact_of_toPostfix_error horder

end Abacus.Calculator
