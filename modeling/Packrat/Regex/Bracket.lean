import Packrat.Regex.Escape

/-!
# Bracketed classes

A class between brackets lists characters, ranges, escapes, classes by the names of ASCII and
further bracketed classes. Two ampersands, dashes or tildes between lists stand for the operations
of sets and are applied from left to right. With the class goes the depth to which its parts are
nested.
-/

set_option autoImplicit false
set_option relaxedAutoImplicit false

namespace Packrat

namespace Regex

/-- A part of a pattern with the depth to which further parts are nested in it. -/
structure Nested (α : Type) where
  /-- What the part stands for. -/
  value : α
  /-- How many parts lie one inside the other. -/
  depth : Nat

/-- How a set operation of a class combines what stands before and after it. -/
abbrev ClassOperation := CharClass → CharClass → CharClass

/-- What has been read of a bracketed class. -/
structure ClassLevel where
  /-- Whether the class is negated. -/
  negated : Bool
  /-- The left operand of the last set operation, with the operation. -/
  pending : Option (Nested CharClass × ClassOperation)
  /-- The members since then. -/
  members : CharClass
  /-- How many members have been listed since then. -/
  count : Nat
  /-- The depth of the deepest of them. -/
  depth : Nat

namespace ClassLevel

/-- A class of which only the start has been read. -/
def opened (negated : Bool) : ClassLevel := ⟨negated, none, .empty, 0, 0⟩

def add (level : ClassLevel) (found : Nested CharClass) : ClassLevel :=
  { level with
    members := level.members.union found.value
    count := level.count + 1
    depth := max level.depth found.depth }

/-- The members so far, with the pending set operation applied. Several members are one part, and so
are the two operands of an operation. -/
def operand (level : ClassLevel) : Nested CharClass :=
  let depth := if level.count ≤ 1 then level.depth else level.depth + 1
  match level.pending with
  | none => ⟨level.members, depth⟩
  | some (left, operation) => ⟨operation left.value level.members, max left.depth depth + 1⟩

/-- Starts the right operand of a set operation. -/
def operate (level : ClassLevel) (operation : ClassOperation) : ClassLevel :=
  { opened level.negated with pending := some (level.operand, operation) }

def close? (switches : Switches) (level : ClassLevel) : Option (Nested CharClass) :=
  let found := level.operand
  (switches.negate? level.negated found.value).map (⟨·, found.depth + 1⟩)

end ClassLevel

/-! ### Members -/

/-- Reads one end of a range or one member of a class. -/
def readMember? (switches : Switches) : List Char → Option (Escape × List Char)
  | [] => none
  | '\\' :: rest => readEscape? switches rest
  | c :: rest => some (.char c false, rest)

/-- Reads a member or a range of a class. A dash before a closing bracket or another dash makes no
range. -/
def readRange? (switches : Switches) (chars : List Char) : Option (CharClass × List Char) := do
  let (first, rest) ← readMember? switches chars
  let rest := switches.skip rest
  let range : Option (List Char) :=
    match rest with
    | '-' :: more =>
      if switches.peek more = some ']' ∨ switches.peek more = some '-' then none
      else some (switches.skip more)
    | _ => none
  match range, first with
  | none, .char c _ => pure (← switches.members? c c, rest)
  | none, .charClass accepted => pure (accepted, rest)
  | some more, .char low _ =>
    match ← readMember? switches more with
    | (.char high _, rest) =>
      if low ≤ high then pure (← switches.members? low high, rest) else none
    | _ => none
  | _, _ => none

/-! ### Classes by the names of ASCII -/

/-- The class of characters of ASCII with the given name. -/
def asciiClass? (name : List Char) : Option CharClass :=
  (match String.ofList name with
    | "alnum" => some [(0x30, 0x39), (0x41, 0x5A), (0x61, 0x7A)]
    | "alpha" => some [(0x41, 0x5A), (0x61, 0x7A)]
    | "ascii" => some [(0, 0x7F)]
    | "blank" => some [(9, 9), (0x20, 0x20)]
    | "cntrl" => some [(0, 0x1F), (0x7F, 0x7F)]
    | "digit" => some [(0x30, 0x39)]
    | "graph" => some [(0x21, 0x7E)]
    | "lower" => some [(0x61, 0x7A)]
    | "print" => some [(0x20, 0x7E)]
    | "punct" => some [(0x21, 0x2F), (0x3A, 0x40), (0x5B, 0x60), (0x7B, 0x7E)]
    | "space" => some [(9, 13), (0x20, 0x20)]
    | "upper" => some [(0x41, 0x5A)]
    | "word" => some [(0x30, 0x39), (0x41, 0x5A), (0x5F, 0x5F), (0x61, 0x7A)]
    | "xdigit" => some [(0x30, 0x39), (0x41, 0x46), (0x61, 0x66)]
    | _ => none).map CharClass.ofRanges

/-- Reads the name of a class between colons and the closing bracket; a circumflex negates. Gives
whether the class is negated, the class and what follows. -/
def readAsciiClass? (chars : List Char) : Option (Bool × CharClass × List Char) :=
  match chars with
  | ':' :: rest =>
    let (negated, rest) :=
      match rest with
      | '^' :: more => (true, more)
      | _ => (false, rest)
    match rest.dropWhile (· ≠ ':') with
    | ':' :: ']' :: more =>
      (asciiClass? (rest.takeWhile (· ≠ ':'))).map fun found ↦ (negated, found, more)
    | _ => none
  | _ => none

/-! ### Brackets -/

/-- Reads what opens a bracketed class: a circumflex, dashes, and a closing bracket that is a
member because it comes first. -/
def openClass (switches : Switches) (chars : List Char) : ClassLevel × List Char :=
  let chars := switches.skip chars
  let (negated, chars) :=
    match chars with
    | '^' :: rest => (true, switches.skip rest)
    | _ => (false, chars)
  dashes chars.length (.opened negated) chars
where
  /-- Takes dashes at the start of a class as members. -/
  dashes : Nat → ClassLevel → List Char → ClassLevel × List Char
    | steps + 1, level, '-' :: rest =>
      dashes steps (level.add ⟨.single '-', 0⟩) (switches.skip rest)
    | _, level, ']' :: rest =>
      if level.count = 0 then (level.add ⟨.single ']', 0⟩, rest) else (level, ']' :: rest)
    | _, level, chars => (level, chars)

/-- Reads the rest of a class inside the classes that are open around it. -/
def readClass? (switches : Switches) :
    Nat → ClassLevel → List ClassLevel → List Char → Option (Nested CharClass × List Char)
  | 0, _, _, _ => none
  | steps + 1, level, outer, chars =>
    match switches.skip chars with
    | [] => none
    | '[' :: rest =>
      match readAsciiClass? rest with
      | some (negated, found, rest) =>
        match switches.negate? negated (switches.fold found) with
        | none => none
        | some found => readClass? switches steps (level.add ⟨found, 0⟩) outer rest
      | none =>
        let (inner, rest) := openClass switches rest
        readClass? switches steps inner (level :: outer) rest
    | ']' :: rest =>
      match level.close? switches, outer with
      | none, _ => none
      | some found, [] => some (found, rest)
      | some found, enclosing :: more =>
        readClass? switches steps (enclosing.add found) more rest
    | '&' :: '&' :: rest =>
      readClass? switches steps (level.operate .intersection) outer rest
    | '-' :: '-' :: rest => readClass? switches steps (level.operate .difference) outer rest
    | '~' :: '~' :: rest =>
      readClass? switches steps (level.operate .symmetricDifference) outer rest
    | chars =>
      match readRange? switches chars with
      | none => none
      | some (accepted, rest) => readClass? switches steps (level.add ⟨accepted, 0⟩) outer rest

end Regex

end Packrat
