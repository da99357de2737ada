/-
Module: Abacus.Deflate.Code
Purpose: Codes in which no codeword begins another one, as binary trees. A code is given by the
  lengths of its codewords: shorter words come first, words of one length in the order of their
  symbols.
Main exports: Code, Code.next, codewords, Code.ofLengths?
-/
import Abacus.Deflate.Bits

namespace Abacus.Deflate

/-- A code: the symbol that each codeword stands for. -/
inductive Code where
  | empty
  | symbol (value : Nat)
  | branch (zero one : Code)
deriving DecidableEq, Repr, Inhabited

namespace Code

/-- The code with one more codeword. -/
def insert (value : Nat) : List Bool → Code → Code
  | [], _ => symbol value
  | false :: word, branch zero one => branch (insert value word zero) one
  | true :: word, branch zero one => branch zero (insert value word one)
  | false :: word, _ => branch (insert value word empty) empty
  | true :: word, _ => branch empty (insert value word empty)

/-- Takes the next symbol. -/
def next : Code → List Bool → Except Stop (Nat × List Bool)
  | symbol value, bits => .ok (value, bits)
  | _, [] => .error .cut
  | empty, _ => .error .corrupt
  | branch zero one, bit :: bits => if bit then one.next bits else zero.next bits

end Code

/-- The greatest length of a codeword. -/
def maxLength : Nat :=
  15

/-- The bits of a number of `count` bits, the highest first. -/
def wordOf (count n : Nat) : List Bool :=
  (List.range count).reverse.map n.testBit

/-- The codewords of symbols that are given with their lengths in order, from the word `word` of
length `length` on. -/
def wordsFrom (length word : Nat) : List (Nat × Nat) → List (Nat × List Bool)
  | [] => []
  | (value, longer) :: rest =>
      let word := word <<< (longer - length)
      (value, wordOf longer word) :: wordsFrom longer (word + 1) rest

/-- The symbols that have a codeword, with its length, in the order of their codewords. -/
def orderedSymbols (lengths : List Nat) : List (Nat × Nat) :=
  ((List.range lengths.length).zip lengths |>.filter (·.2 ≠ 0)).mergeSort fun a b => a.2 ≤ b.2

/-- The symbols with their codewords. -/
def codewords (lengths : List Nat) : List (Nat × List Bool) :=
  wordsFrom 0 0 (orderedSymbols lengths)

/-- How many words of the greatest length begin with the codewords. -/
def share (lengths : List Nat) : Nat :=
  (lengths.filter (· ≠ 0)).foldl (fun count length => count + (1 <<< (maxLength - length))) 0

/-- Whether lengths are those of a code. Words may be left over only if `lone` allows it, and
only beside a single word of one bit or where there is no word. -/
def isCode (lone : Bool) (lengths : List Nat) : Bool :=
  let whole := 1 <<< maxLength
  share lengths = whole || (lone && lengths.all (· ≤ 1) && share lengths < whole)

/-- The code with codewords of the given lengths, if there is one. -/
def Code.ofLengths? (lone : Bool) (lengths : List Nat) : Except Stop Code :=
  if isCode lone lengths then
    .ok ((codewords lengths).foldl (fun code entry => code.insert entry.1 entry.2) .empty)
  else .error .corrupt

end Abacus.Deflate
