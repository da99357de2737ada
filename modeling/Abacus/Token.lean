/-
Module: Abacus.Token
Purpose: The tokens of an arithmetic expression, with the texts by which messages name them.
Main exports: Operation, TokenKind, Lexeme, Token
-/
import Abacus.Text.Quoted
import Abacus.Text.Whole

namespace Abacus

/-- The four arithmetic operations. -/
inductive Operation where
  | add
  | sub
  | mul
  | div
deriving DecidableEq, Repr, Inhabited, Hashable

/-- The symbol an operation is written with. -/
def Operation.symbol : Operation → Char
  | .add => '+'
  | .sub => '-'
  | .mul => '*'
  | .div => '/'

/-- The operation a symbol stands for. -/
def Operation.ofSymbol? : Char → Option Operation
  | '+' => some .add
  | '-' => some .sub
  | '*' => some .mul
  | '/' => some .div
  | _ => none

/-- Reading a symbol undoes writing it. -/
@[simp] theorem Operation.ofSymbol?_symbol (op : Operation) : ofSymbol? op.symbol = some op := by
  cases op <;> rfl

/-- The kinds of tokens. Operators come in two kinds, by how strongly they bind. -/
inductive TokenKind where
  | operand
  | begin
  | finish
  | openBracket
  | closeBracket
  | weak
  | strong
deriving DecidableEq, Repr, Inhabited, Hashable

namespace TokenKind

/-- All kinds. -/
def all : List TokenKind :=
  [operand, begin, finish, openBracket, closeBracket, weak, strong]

/-- The name of a kind in messages. -/
def name : TokenKind → String
  | operand => "OPERAND"
  | begin => "BEGIN"
  | finish => "END"
  | openBracket => "OPEN_BRACKET"
  | closeBracket => "CLOSE_BRACKET"
  | weak => "WEAK_OP"
  | strong => "STRONG_OP"

/-- What stands for a kind in an expression: brackets are written, the other kinds are named. -/
def symbol : TokenKind → String
  | openBracket => "("
  | closeBracket => ")"
  | kind => kind.name

end TokenKind

/-- Addition and subtraction bind weakly, multiplication and division strongly. -/
def Operation.kind : Operation → TokenKind
  | .add | .sub => .weak
  | .mul | .div => .strong

/-- What a token is, wherever it stands. The sentinels `begin` and `finish` frame an expression. -/
inductive Lexeme where
  | operand (value : Int)
  | operator (op : Operation)
  | openBracket
  | closeBracket
  | begin
  | finish
deriving DecidableEq, Repr, Inhabited, Hashable

namespace Lexeme

/-- The kind of a lexeme. -/
def kind : Lexeme → TokenKind
  | operand _ => .operand
  | operator op => op.kind
  | openBracket => .openBracket
  | closeBracket => .closeBracket
  | begin => .begin
  | finish => .finish

/-- The text a lexeme stands for; none for a number that has too many digits to be written. -/
def text? : Lexeme → Option String
  | operand value => Text.writeWhole? value
  | operator op => some op.symbol.toString
  | lexeme => some lexeme.kind.symbol

end Lexeme

/-- A lexeme and the position in the source of its first character. -/
structure Token where
  lexeme : Lexeme
  position : Int := 0
deriving DecidableEq, Repr, Inhabited

namespace Token

/-- The kind of a token. -/
def kind (token : Token) : TokenKind :=
  token.lexeme.kind

/-- The text a token stands for, if it can be written. -/
def text? (token : Token) : Option String :=
  token.lexeme.text?

/-- Whether a token is a number. -/
def isOperand (token : Token) : Bool :=
  token.kind == .operand

/-- Whether a token is one of the four operators. -/
def isOperator (token : Token) : Bool :=
  token.kind == .weak || token.kind == .strong

/-- Tokens are the same if they agree up to their positions. -/
def same (a b : Token) : Bool :=
  a.lexeme == b.lexeme

/-- How messages show a token: its kind, the text of a number or an operator, its position. A token
with a number that cannot be written is not shown. -/
def display? (token : Token) : Option String :=
  if token.isOperand || token.isOperator then do
    let text ← token.text?
    let position ← Text.writeWhole? token.position
    return s!"BZCalcToken({token.kind.name}, {Text.quoted text}, pos={position})"
  else do
    let position ← Text.writeWhole? token.position
    return s!"BZCalcToken({token.kind.name}, pos={position})"

end Token

end Abacus
