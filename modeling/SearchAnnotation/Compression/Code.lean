/-!
# Prefix codes

A prefix code is a tree whose leaves are symbols; a zero bit goes left and a one bit right. The
lengths of the code words determine the code: shorter words come first, and words of one length
follow the order of their symbols.
-/

namespace SearchAnnotation.Compression

/-- A prefix code, possibly with words that mean nothing. -/
inductive Code where
  /-- Nothing. -/
  | empty
  /-- A symbol. -/
  | leaf (symbol : Nat)
  /-- What follows a zero bit and what follows a one bit. -/
  | node (zero one : Code)
deriving DecidableEq, Repr

namespace Code

/-- Puts a symbol at the end of a word of so many bits. -/
def insert (symbol : Nat) : Nat → Nat → Code → Code
  | 0, _, _ => leaf symbol
  | length + 1, word, code =>
    let (zero, one) := match code with
      | node zero one => (zero, one)
      | _ => (empty, empty)
    if word / Nat.pow 2 length % 2 = 0 then node (insert symbol length word zero) one
    else node zero (insert symbol length word one)

/-- The greatest length of a word. -/
def longest : Nat := 15

/-- The part of all words of the greatest length that begin with a word of the given one. -/
def share (length : Nat) : Nat := Nat.pow 2 (longest - length)

/-- Puts in symbols with the lengths of their words, in order, from a share on. -/
def assign : Nat → List (Nat × Nat) → Code → Code
  | _, [], code => code
  | start, (length, symbol) :: rest, code =>
    assign (start + share length) rest (code.insert symbol length (start / share length))

/-- The symbols in use with the lengths of their words, shorter words first. -/
def used (lengths : List Nat) : List (Nat × Nat) :=
  (List.range longest).flatMap fun n => lengths.zipIdx.filter fun entry => entry.1 = n + 1

/-- The code of the lengths of all words, zero for symbols that are not used. There may be no
more words than fit, and there must be as many, except that a single word of one bit may do. -/
def ofLengths? (mayBeSingle : Bool) (lengths : List Nat) : Option Code :=
  let entries := used lengths
  let total := (entries.map fun entry => share entry.1).foldl (· + ·) 0
  let single := mayBeSingle && entries.all fun entry => entry.1 = 1
  if total = share 0 || (total < share 0 && single) then some (assign 0 entries (node empty empty))
  else none

/-- What bits turn out to be. -/
inductive Word where
  /-- The word of a symbol, and the bits after it. -/
  | symbol (n : Nat) (rest : List Bool)
  /-- No word. -/
  | unknown
  /-- The beginning of a word. -/
  | cutOff
deriving DecidableEq, Repr

/-- Reads a word. -/
def read : Code → List Bool → Word
  | leaf n, bits => .symbol n bits
  | empty, _ => .unknown
  | node _ _, [] => .cutOff
  | node zero _, false :: bits => zero.read bits
  | node _ one, true :: bits => one.read bits

example : (ofLengths? false [2, 1, 2]).map (fun code => code.read [true, true, false]) =
    some (.symbol 2 [false]) := by decide +kernel

end Code

end SearchAnnotation.Compression
