/-
Module: Abacus.Proofs.BracketDepth
Purpose: The brackets that are open, read off the waiting operators. Operators come and go without
  opening or closing a bracket, so the yard takes tokens and closes exactly if their brackets
  match, and no arrangement of operands and operators makes it fail.
Main exports: Yard.depth, Yard.depth_put, Yard.depth_close, shuntingYard_eq_ok_iff, openAfter?,
  culprit_of_shuntingYard
-/
import Abacus.Proofs.InfixGrammar
import Abacus.Proofs.ShuntingYard

namespace Abacus

/-- Whether a token is an opening bracket. -/
def Token.opens (token : Token) : Bool :=
  !token.isInside

/-- The number of open brackets behind a token, from the number before it; none for a closing
    bracket without a partner. -/
def Token.depthAfter? (token : Token) (depth : Nat) : Option Nat :=
  match token.lexeme, depth with
  | .openBracket, depth => some (depth + 1)
  | .closeBracket, 0 => none
  | .closeBracket, depth + 1 => some depth
  | _, depth => some depth

/-- Brackets match if they do behind the first token. -/
theorem bracketsMatch_cons (depth : Nat) (token : Token) (rest : List Token) :
    bracketsMatch depth (token :: rest) =
      match token.depthAfter? depth with
      | some next => bracketsMatch next rest
      | none => false := by
  obtain ⟨lexeme, position⟩ := token
  cases lexeme with
  | closeBracket => cases depth <;> rfl
  | _ => rfl

namespace Yard

/-- The number of brackets that are open. -/
def depth (yard : Yard) : Nat :=
  yard.operators.countP Token.opens

@[simp] theorem depth_nil (output : List Token) : depth ⟨[], output⟩ = 0 := by
  rfl

@[simp] theorem depth_cons (top : Token) (below output : List Token) :
    depth ⟨top :: below, output⟩ = depth ⟨below, []⟩ + if top.opens then 1 else 0 := by
  simp [depth, List.countP_cons]

/-- The output holds no brackets. -/
theorem depth_output (operators output : List Token) :
    depth ⟨operators, output⟩ = depth ⟨operators, []⟩ := by
  rfl

/-- Popping that stops at brackets closes none. -/
theorem depth_popWhile {test : Token → Bool}
    (htest : ∀ token : Token, test token = true → token.isInside = true)
    (operators output : List Token) :
    (popWhile test ⟨operators, output⟩).depth = depth ⟨operators, []⟩ := by
  induction operators generalizing output with
  | nil => rfl
  | cons top below ih =>
      cases htop : test top with
      | true =>
          rw [popWhile_cons_pos below output htop, ih]
          simp [Token.opens, htest top htop]
      | false =>
          rw [popWhile_cons_neg below output htop]
          rfl

/-- Once everything inside is popped, the yard is empty exactly if no bracket is open, and else a
    bracket is on top. -/
theorem depth_popInside (yard : Yard) :
    match (yard.popWhile Token.isInside).operators with
    | [] => yard.depth = 0
    | _ :: below => yard.depth = depth ⟨below, []⟩ + 1 := by
  obtain ⟨operators, output⟩ := yard
  have hdepth := depth_popWhile (fun _ h => h) operators output
  have hsettled := settled_popWhile Token.isInside ⟨operators, output⟩
  generalize popWhile Token.isInside ⟨operators, output⟩ = ready at hdepth hsettled
  rw [depth_output operators output, ← hdepth]
  obtain ⟨_ | ⟨top, below⟩, readyOutput⟩ := ready
  · rfl
  · simp [Token.opens, hsettled top rfl]

/-- The yard closes if no bracket is open, and else it fails on the closing sentinel. -/
theorem depth_close (yard : Yard) (finish : Token) :
    match yard.depth with
    | 0 => ∃ tokens : List Token, yard.close finish = .ok tokens
    | _ + 1 => yard.close finish = .error finish := by
  have hdepth := depth_popInside yard
  simp only [close]
  cases hoperators : (yard.popWhile Token.isInside).operators with
  | nil =>
      rw [hoperators] at hdepth
      rw [hdepth]
      exact ⟨_, rfl⟩
  | cons top below =>
      rw [hoperators] at hdepth
      rw [hdepth]

/-- The yard closes exactly if no bracket is open. -/
theorem close_eq_ok_iff (yard : Yard) (finish : Token) :
    (∃ tokens : List Token, yard.close finish = .ok tokens) ↔ yard.depth = 0 := by
  have hclose := depth_close yard finish
  cases hdepth : yard.depth with
  | zero =>
      rw [hdepth] at hclose
      exact ⟨fun _ => rfl, fun _ => hclose⟩
  | succ depth =>
      rw [hdepth] at hclose
      simp only at hclose
      simp [hclose]

/-- A token that the yard takes changes the number of open brackets as its brackets say; the only
    tokens it refuses are closing brackets without a partner. -/
theorem depth_put (yard : Yard) {token : Token} (hinner : token.IsInner) :
    match yard.put token with
    | .ok next => token.depthAfter? yard.depth = some next.depth
    | .error culprit => culprit = token ∧ token.depthAfter? yard.depth = none := by
  obtain ⟨operators, output⟩ := yard
  obtain ⟨lexeme, position⟩ := token
  cases lexeme with
  | operand value => rfl
  | operator op =>
      have hbinds : ∀ token : Token, token.bindsAtLeast op.priority = true →
          token.isInside = true := fun _ h => isInside_of_bindsAtLeast h
      have hready := depth_popWhile hbinds operators output
      simp only [put, depth_cons]
      rw [← depth_output _ (popWhile _ _).output, hready]
      rfl
  | openBracket =>
      simp only [put, depth_cons]
      rfl
  | closeBracket =>
      have hdepth := depth_popInside ⟨operators, output⟩
      simp only [put]
      cases hoperators : (popWhile Token.isInside ⟨operators, output⟩).operators with
      | nil =>
          rw [hoperators] at hdepth
          rw [hdepth]
          exact ⟨rfl, rfl⟩
      | cons top below =>
          rw [hoperators] at hdepth
          rw [hdepth]
          rfl
  | begin => exact absurd rfl hinner.1
  | finish => exact absurd rfl hinner.2

/-- The yard refuses a token exactly if its brackets cannot match, and else the number of open
    brackets goes with the tokens that are left. -/
theorem bracketsMatch_put (yard : Yard) {token : Token} (hinner : token.IsInner)
    (rest : List Token) :
    bracketsMatch yard.depth (token :: rest) =
      match yard.put token with
      | .ok next => bracketsMatch next.depth rest
      | .error _ => false := by
  have hdepth := depth_put yard hinner
  rw [bracketsMatch_cons]
  cases hput : yard.put token with
  | ok next =>
      rw [hput] at hdepth
      simp only [hdepth]
  | error culprit =>
      rw [hput] at hdepth
      simp only [hdepth.2]

/-- The yard takes tokens and closes exactly if their brackets match with those that are open. -/
theorem putAll_close_eq_ok_iff (yard : Yard) {body : List Token}
    (hinner : ∀ token ∈ body, token.IsInner) (finish : Token) :
    (∃ (last : Yard) (tokens : List Token), yard.putAll body = .ok last ∧
      last.close finish = .ok tokens) ↔ bracketsMatch yard.depth body = true := by
  induction body generalizing yard with
  | nil =>
      rw [bracketsMatch, beq_iff_eq, ← close_eq_ok_iff yard finish]
      simp [putAll]
  | cons token body ih =>
      obtain ⟨htoken, hlater⟩ := List.forall_mem_cons.mp hinner
      rw [bracketsMatch_put yard htoken, putAll]
      cases yard.put token with
      | ok next => exact ih next hlater
      | error culprit => simp

end Yard

/-- Exactly the tokens whose brackets match have a postfix order. -/
theorem shuntingYard_eq_ok_iff {body : List Token} (hinner : ∀ token ∈ body, token.IsInner)
    (finish : Token) :
    (∃ tokens : List Token, shuntingYard body finish = .ok tokens) ↔
      bracketsMatch 0 body = true := by
  rw [← Yard.depth_nil [], ← Yard.putAll_close_eq_ok_iff ⟨[], []⟩ hinner finish, shuntingYard]
  cases Yard.putAll ⟨[], []⟩ body with
  | ok yard => simp
  | error culprit => simp

/-! ### The token on which the yard fails -/

/-- The number of open brackets behind tokens. -/
def openAfter? (depth : Nat) (tokens : List Token) : Option Nat :=
  tokens.foldlM (fun depth token => token.depthAfter? depth) depth

theorem openAfter?_cons (depth : Nat) (token : Token) (rest : List Token) :
    openAfter? depth (token :: rest) = (token.depthAfter? depth).bind (openAfter? · rest) :=
  List.foldlM_cons

/-- Only a closing bracket has no partner, and only where no bracket is open. -/
theorem closeBracket_of_depthAfter? {token : Token} {depth : Nat}
    (h : token.depthAfter? depth = none) : token.lexeme = .closeBracket ∧ depth = 0 := by
  obtain ⟨lexeme, position⟩ := token
  cases lexeme with
  | closeBracket =>
      cases depth with
      | zero => exact ⟨rfl, rfl⟩
      | succ depth => cases h
  | _ => cases h

/-- A yard that takes tokens holds the brackets that they leave open. The token on which it fails is
    a closing bracket, and the tokens before it leave no bracket open. -/
theorem Yard.openAfter?_putAll (yard : Yard) {body : List Token}
    (hinner : ∀ token ∈ body, token.IsInner) :
    match yard.putAll body with
    | .ok last => openAfter? yard.depth body = some last.depth
    | .error culprit =>
        ∃ earlier later : List Token, body = earlier ++ culprit :: later ∧
          culprit.lexeme = .closeBracket ∧ openAfter? yard.depth earlier = some 0 := by
  induction body generalizing yard with
  | nil => rfl
  | cons token body ih =>
      obtain ⟨htoken, hlater⟩ := List.forall_mem_cons.mp hinner
      have hdepth := yard.depth_put htoken
      rw [putAll]
      cases hput : yard.put token with
      | error culprit =>
          rw [hput] at hdepth
          obtain ⟨rfl, hnone⟩ := hdepth
          obtain ⟨hclose, hzero⟩ := closeBracket_of_depthAfter? hnone
          exact ⟨[], body, rfl, hclose, congrArg some hzero⟩
      | ok next =>
          rw [hput] at hdepth
          have hopen : ∀ tokens : List Token,
              openAfter? yard.depth (token :: tokens) = openAfter? next.depth tokens := by
            intro tokens
            rw [openAfter?_cons, hdepth]
            rfl
          have hrest := ih next hlater
          simp only
          split
          · next last hlast =>
              rw [hlast] at hrest
              rw [hopen]
              exact hrest
          · next culprit hculprit =>
              rw [hculprit] at hrest
              obtain ⟨earlier, later, rfl, hclose, hzero⟩ := hrest
              exact ⟨token :: earlier, later, rfl, hclose, (hopen earlier).trans hzero⟩

/-- The token on which the shunting yard fails is a closing bracket where no bracket is open, or the
    end where one is. -/
theorem culprit_of_shuntingYard {body : List Token} (hinner : ∀ token ∈ body, token.IsInner)
    {finish culprit : Token} (h : shuntingYard body finish = .error culprit) :
    (∃ earlier later : List Token, body = earlier ++ culprit :: later ∧
      culprit.lexeme = .closeBracket ∧ openAfter? 0 earlier = some 0) ∨
    (culprit = finish ∧ ∃ depth : Nat, openAfter? 0 body = some (depth + 1)) := by
  have hopen := Yard.openAfter?_putAll ⟨[], []⟩ hinner
  rw [shuntingYard] at h
  split at h
  · next last hlast =>
      rw [hlast] at hopen
      have hbody : openAfter? 0 body = some last.depth := hopen
      have hclose := last.depth_close finish
      cases hdepth : last.depth with
      | zero =>
          rw [hdepth] at hclose
          obtain ⟨tokens, htokens⟩ := hclose
          rw [htokens] at h
          cases h
      | succ depth =>
          rw [hdepth] at hclose hbody
          simp only at hclose
          rw [hclose] at h
          cases h
          exact .inr ⟨rfl, depth, hbody⟩
  · next culprit hculprit =>
      rw [hculprit] at hopen
      cases h
      exact .inl hopen

end Abacus
