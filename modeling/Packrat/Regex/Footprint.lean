import Packrat.Regex.Basic

/-!
# The room that an expression takes

An expression is refused when the automaton that finds its matches, or the one that finds them
backwards, takes more than ten mebibytes. `Regex.room` adds up the states of such an automaton. It
reads a text byte by byte, so that a class of characters becomes sequences of byte ranges:
`byteSequences` cuts a range of codes where the bytes of the codes do not form a box.
-/

set_option autoImplicit false
set_option relaxedAutoImplicit false

namespace Packrat

/-! ### Bytes of characters -/

/-- The bytes of the character with the given code. -/
def codeBytes (code : Nat) : List Nat :=
  if code < 0x80 then [code]
  else if code < 0x800 then [0xC0 + code / 64, 0x80 + code % 64]
  else if code < 0x10000 then [0xE0 + code / 4096, 0x80 + code / 64 % 64, 0x80 + code % 64]
  else [0xF0 + code / 262144, 0x80 + code / 4096 % 64, 0x80 + code / 64 % 64, 0x80 + code % 64]

/-- The last code before the first place at which a range of codes has to be cut: where the number
of bytes changes, or where the last bytes do not go through all their values. -/
def cut? (first last : Nat) : Option Nat :=
  match [0x7F, 0x7FF, 0xFFFF].find? fun bound ↦ first ≤ bound && bound < last with
  | some bound => some bound
  | none =>
    [64, 4096, 262144].findSome? fun block ↦
      if first / block = last / block then none
      else if first % block ≠ 0 then some (first / block * block + (block - 1))
      else if last % block ≠ block - 1 then some (last / block * block - 1)
      else none

/-- The sequences of byte ranges for a range of codes that are all characters. At most `cuts` cuts
follow one another. -/
def byteSequences : Nat → Nat → Nat → List (List (Nat × Nat))
  | 0, _, _ => []
  | cuts + 1, first, last =>
    match cut? first last with
    | some middle => byteSequences cuts first middle ++ byteSequences cuts (middle + 1) last
    | none => [(codeBytes first).zip (codeBytes last)]

/-- The sequences of byte ranges for a class. The surrogate codes are no characters. -/
def CharClass.byteSequences (accepted : CharClass) : List (List (Nat × Nat)) :=
  accepted.ranges.flatMap fun (first, last) ↦
    (if first < 0xD800 then Packrat.byteSequences 16 first (min last 0xD7FF) else []) ++
      if 0xDFFF < last then Packrat.byteSequences 16 (max first 0xE000) last else []

/-- The length of the longest common start of two lists. -/
def commonLength : List (Nat × Nat) → List (Nat × Nat) → Nat
  | first :: rest, other :: others => if first = other then commonLength rest others + 1 else 0
  | _, _ => 0

/-- The number of different starts of sequences in order, given the sequence before them. -/
def startCount (before : List (Nat × Nat)) : List (List (Nat × Nat)) → Nat
  | [] => 0
  | sequence :: rest =>
    sequence.length - commonLength before sequence + startCount sequence rest

/-! ### States -/

namespace Footprint

/-- The bytes of a state. -/
def state : Nat := 32

/-- The bytes of a transition to another state. -/
def transition : Nat := 8

/-- The bytes of a way to go on. -/
def way : Nat := 4

/-- The bytes that an automaton can take. -/
def limit : Nat := 10 * 1024 * 1024

end Footprint

open Footprint

def CharClass.room (backward : Bool) (accepted : CharClass) : Nat :=
  match accepted.only? with
  | some code => state * (codeBytes code).length
  | none =>
    if accepted.isAscii then 2 * state + transition * accepted.ranges.length
    else
      let sequences := accepted.byteSequences
      let starts := startCount [] sequences
      if backward then state * (starts + 2) + way * sequences.length
      else state * (starts + 2 - sequences.length) + transition * starts

namespace Regex

/-- The room of an expression. As a branch of an alternation it takes one more way to go on, and an
alternation of alternations is a single one. Places of interest are found forwards only. -/
def room (backward : Bool) (asBranch : Bool) : Regex → Nat
  | .alt first second =>
    (if asBranch then 0 else 2 * state) + first.room backward true + second.room backward true
  | .empty => state + if asBranch then way else 0
  | .char accepted => accepted.room backward + if asBranch then way else 0
  | .look _ => state + if asBranch then way else 0
  | .cat first second =>
    first.room backward false + second.room backward false + if asBranch then way else 0
  | .group inner =>
    inner.room backward false + (if backward then 0 else 2 * state) + if asBranch then way else 0
  | .repetition inner least most _ =>
    let once := inner.room backward false
    let turn := state + 2 * way
    (match most with
      | some most =>
        if most = least then least * once
        else
          (if least = 0 then state else least * once) + state + (most - least) * (once + turn)
      | none =>
        if least = 0 then once + turn + if inner.consumes then 0 else turn + state
        else least * once + turn) +
      if asBranch then way else 0

/-- Whether both automata of an expression stay within the limit. Each has a few states more than
the expression itself: to start anywhere in a text, to accept, and to keep the place of the
match. -/
def fits (r : Regex) : Bool :=
  r.room false false + 4 * state ≤ limit && r.room true false + 5 * state ≤ limit

end Regex

end Packrat
