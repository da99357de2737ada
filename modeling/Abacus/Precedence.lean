/-
Module: Abacus.Precedence
Purpose: The precedence automaton. Its state is the kind of the token on top of the stack of
  waiting operators, its input the kind of the next token that is no operand; the table gives
  the action, and an action moves tokens between the stack and the output.
Main exports: Action, transition?, StackFault, Yard, Yard.apply
-/
import Abacus.Report

namespace Abacus

/-- What the automaton can do on a token. -/
inductive Action where
  /-- The token waits on top of the stack. -/
  | push
  /-- The top goes to the output and the token takes its place. -/
  | moveTopThenPush
  /-- The top is dropped together with the token. -/
  | discard
  /-- The top goes to the output and the token is looked at again. -/
  | moveTopStay
  /-- The expression is complete. -/
  | finish
  /-- The token may not stand here. -/
  | error
deriving DecidableEq, Repr, Inhabited

namespace Action

/-- All actions. -/
def all : List Action :=
  [push, moveTopThenPush, discard, moveTopStay, finish, error]

/-- The name of an action in messages. -/
def name : Action → String
  | push => "PUSH"
  | moveTopThenPush => "MOVE_TOP_THEN_PUSH"
  | discard => "DISCARD"
  | moveTopStay => "MOVE_TOP_STAY"
  | finish => "END"
  | error => "ERROR"

end Action

/-- The table of the automaton: twenty pairs of a state and a symbol have an action. An operator
sends a waiting one of its own class to the output, a weak one also a strong one; brackets
shield what waits below them. -/
def transition? : (state symbol : TokenKind) → Option Action
  | .begin, .weak => some .push
  | .begin, .strong => some .push
  | .begin, .openBracket => some .push
  | .begin, .closeBracket => some .error
  | .begin, .finish => some .finish
  | .weak, .weak => some .moveTopThenPush
  | .weak, .strong => some .push
  | .weak, .openBracket => some .push
  | .weak, .closeBracket => some .moveTopStay
  | .weak, .finish => some .moveTopStay
  | .strong, .weak => some .moveTopStay
  | .strong, .strong => some .moveTopThenPush
  | .strong, .openBracket => some .push
  | .strong, .closeBracket => some .moveTopStay
  | .strong, .finish => some .moveTopStay
  | .openBracket, .weak => some .push
  | .openBracket, .strong => some .push
  | .openBracket, .openBracket => some .push
  | .openBracket, .closeBracket => some .discard
  | .openBracket, .finish => some .error
  | _, _ => none

/-- Why the automaton cannot go on. -/
inductive StackFault where
  | noTransition (state symbol : TokenKind)
  | inapplicable (action : Action) (token : Token)
  | emptyTop
  | emptyPop
deriving DecidableEq, Repr, Inhabited

namespace StackFault

/-- What is reported about a fault of the automaton; nothing for an access to an empty stack,
which no expression leads to, and for a token that is not shown. -/
def report? : StackFault → Option Report
  | noTransition state symbol => some {
      kind := .internal
      message := s!"No transition from state {state.name} on symbol {symbol.name}"
      context := some ("The operator stack or token stream contains a token the converter " ++
        "cannot handle here") }
  | inapplicable action token => do
      let shown ← token.display?
      return {
        kind := .internal
        message := s!"Action {action.name} cannot be applied to the operator stack"
        received := some shown
        context := some ("Only PUSH, MOVE_TOP_THEN_PUSH, DISCARD and MOVE_TOP_STAY change the " ++
          "stacks") }
  | emptyTop | emptyPop => none

/-- The words for a fault that is not reported. -/
def unreportedMessage : StackFault → String
  | emptyTop => "list index out of range"
  | emptyPop => "pop from empty list"
  | _ => Text.unwritableMessage

end StackFault

/-- The action for a state and a symbol. -/
def lookupAction (state symbol : TokenKind) : Except StackFault Action :=
  match transition? state symbol with
  | some action => .ok action
  | none => .error (.noTransition state symbol)

/-- The shunting yard: the waiting operators, the top one first, and the output so far, the newest
token first. -/
structure Yard where
  operators : List Token
  output : List Token
deriving DecidableEq, Repr, Inhabited

namespace Yard

/-- The action for a token, by the table and the top of the stack. -/
def actionFor (yard : Yard) (token : Token) : Except StackFault Action :=
  match yard.operators with
  | [] => .error .emptyTop
  | top :: _ => lookupAction top.kind token.kind

/-- Carries out an action, and tells whether the input goes on behind the token. The two actions
that end a run change no stack and are refused. -/
def apply (yard : Yard) (action : Action) (token : Token) :
    Except StackFault (Yard × Bool) :=
  match action, yard.operators with
  | .push, operators => .ok (⟨token :: operators, yard.output⟩, true)
  | .moveTopThenPush, top :: below => .ok (⟨token :: below, top :: yard.output⟩, true)
  | .discard, _ :: below => .ok (⟨below, yard.output⟩, true)
  | .moveTopStay, top :: below => .ok (⟨below, top :: yard.output⟩, false)
  | .finish, _ => .error (.inapplicable .finish token)
  | .error, _ => .error (.inapplicable .error token)
  | _, [] => .error .emptyPop

end Yard

end Abacus
