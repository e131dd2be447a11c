import Packrat.Regex.Bracket
import Packrat.Regex.Footprint
import Packrat.Regex.Search

/-!
# Reading patterns

A pattern is read from left to right. What has been read so far of each open group is kept on a
stack: the finished branches of its alternation and the items of the current branch. Every step
takes at least one character, so the length of the pattern bounds the number of steps.

Patterns know literals and escapes, character classes with ranges, nesting and set operations, the
dot, line and word conditions, groups with and without capture, alternation, and greedy and lazy
repetition. A pattern whose parts are nested too deeply is refused, and so is one that takes too
much room.
-/

set_option autoImplicit false
set_option relaxedAutoImplicit false

namespace Packrat

namespace Regex

/-- What has been read of a group. An item of the current branch is missing where a group of
switches stands. -/
structure Level where
  /-- The switches to go back to when the group ends. -/
  outer : Switches
  /-- Whether the place of a match of the group is of interest. -/
  captures : Bool
  /-- The finished branches, the last one first. -/
  branches : List (Nested Regex)
  /-- The items of the current branch, the last one first. -/
  items : List (Option (Nested Regex))

namespace Level

/-- A group of which only the start has been read. -/
def opened (outer : Switches) (captures : Bool) : Level := ⟨outer, captures, [], []⟩

/-- The items of a branch one after the other; they are given last one first. Several items are one
part of the pattern. -/
def joinItems (items : List (Option (Nested Regex))) : Nested Regex :=
  let depth := items.foldl (fun depth item ↦ max depth (item.elim 0 (·.depth))) 0
  ⟨inRow (items.reverse.filterMap (·.map (·.value))),
    if items.length ≤ 1 then depth else depth + 1⟩

/-- The alternation of branches; they are given last one first. -/
def joinBranches (last : Nested Regex) (earlier : List (Nested Regex)) : Nested Regex :=
  match (last :: earlier).reverse with
  | [] => last
  | [only] => only
  | first :: others =>
    ⟨anyOf first.value (others.map (·.value)),
      others.foldl (fun depth branch ↦ max depth branch.depth) first.depth + 1⟩

def content (level : Level) : Nested Regex := joinBranches (joinItems level.items) level.branches

def close (level : Level) : Nested Regex :=
  let found := level.content
  ⟨if level.captures then .group found.value else found.value, found.depth + 1⟩

def push (level : Level) (item : Nested Regex) : Level :=
  { level with items := some item :: level.items }

def branch (level : Level) : Level :=
  { level with branches := joinItems level.items :: level.branches, items := [] }

/-- Repeats the last item of the current branch; there must be one. -/
def repeatLast? (level : Level) (least : Nat) (most : Option Nat) (greedy : Bool) :
    Option Level :=
  match level.items with
  | some item :: rest =>
    some { level with
      items := some ⟨item.value.repeated least most greedy, item.depth + 1⟩ :: rest }
  | _ => none

end Level

/-! ### Repetition -/

/-- Reads decimal digits, passing over blanks and comments after each of them. -/
def readDigits (switches : Switches) : Nat → List Char → List Char × List Char
  | steps + 1, c :: rest =>
    if isDigit c then
      let (digits, rest) := readDigits switches steps (switches.skip rest)
      (c :: digits, rest)
    else ([], c :: rest)
  | _, chars => ([], chars)

/-- Reads a whole number of 32 bits with blanks around it. -/
def readCount? (switches : Switches) (chars : List Char) : Option (Nat × List Char) :=
  let chars := chars.dropWhile isBlank
  let (digits, rest) := readDigits switches chars.length chars
  if digits.isEmpty || UInt32.size ≤ digitsValue digits then none
  else some (digitsValue digits, switches.skip (rest.dropWhile isBlank))

/-- Reads the bounds of a counted repetition after its opening brace. -/
def readBounds? (switches : Switches) (chars : List Char) :
    Option (Nat × Option Nat × List Char) := do
  let (least, rest) ← readCount? switches (switches.skip chars)
  match rest with
  | '\x7d' :: rest => some (least, some least, rest)
  | ',' :: rest =>
    match switches.skip rest with
    | '\x7d' :: rest => some (least, none, rest)
    | rest =>
      match ← readCount? switches rest with
      | (most, '\x7d' :: rest) => if least ≤ most then some (least, some most, rest) else none
      | _ => none
  | _ => none

/-- Reads the mark of a lazy repetition. -/
def readGreed (switches : Switches) : List Char → Bool × List Char
  | '?' :: rest => (switches.swapGreed, rest)
  | chars => (!switches.swapGreed, chars)

/-! ### Groups -/

/-- Reads letters that set switches and, after a dash, letters that clear them. No letter may come
twice, and one must follow the dash. -/
def readSwitches? (letters : List Char) (switches : Switches) : Option Switches :=
  let on := letters.takeWhile (· ≠ '-')
  let off := letters.dropWhile (· ≠ '-')
  let named := on ++ off.drop 1
  if off = ['-'] ∨ named = [] ∨ named.eraseDups.length ≠ named.length then none
  else do
    let switched ← on.foldlM (fun held letter ↦ held.set? true letter) switches
    (off.drop 1).foldlM (fun held letter ↦ held.set? false letter) switched

/-- Whether a character can stand in the name of a group; a number, a dot or a bracket cannot start
it. -/
def isNameChar (first : Bool) (c : Char) : Bool :=
  c == '_' || CharClass.alphabetic.contains c ||
    (!first &&
      (category c ∈ [.nd, .nl, .no] || c == '.' || c == '[' || c == ']'))

/-- Reads the name of a group up to its closing angle. -/
def readName? (chars : List Char) : Option (List Char × List Char) :=
  match chars.takeWhile (· ≠ '>'), chars.dropWhile (· ≠ '>') with
  | first :: more, _ :: rest =>
    if isNameChar true first && more.all (isNameChar false) then some (first :: more, rest)
    else none
  | _, _ => none

/-- What follows an opening parenthesis. -/
inductive GroupHead where
  /-- A group with the given switches inside. -/
  | group (inside : Switches) (captures : Bool)
  /-- A group with a name. -/
  | named (name : List Char)
  /-- Switches for the rest of the enclosing group. -/
  | switches (after : Switches)

/-- Reads what follows an opening parenthesis. -/
def readGroupHead? (switches : Switches) (chars : List Char) : Option (GroupHead × List Char) :=
  match switches.skip chars with
  | '?' :: 'P' :: '<' :: rest => (readName? rest).map fun found ↦ (.named found.1, found.2)
  | '?' :: '<' :: rest => (readName? rest).map fun found ↦ (.named found.1, found.2)
  | '?' :: ':' :: rest => some (.group switches false, rest)
  | '?' :: rest =>
    let letters := rest.takeWhile fun c ↦ c ≠ ':' ∧ c ≠ ')'
    (readSwitches? letters switches).bind fun changed ↦
      match rest.drop letters.length with
      | ':' :: more => some (.group changed false, more)
      | ')' :: more => some (.switches changed, more)
      | _ => none
  | chars => some (.group switches true, chars)

/-! ### Patterns -/

def ofEscape? (switches : Switches) : Escape → Option Regex
  | .char c coded => (switches.literal? c coded).map .char
  | .charClass accepted => some (.char accepted)
  | .look condition => some (.look condition)

/-- Reads the rest of a pattern. `level` is the innermost open group, `outer` are the groups around
it, and `names` are the names of groups met so far. -/
def readFrom? :
    Nat → Switches → Level → List Level → List (List Char) → List Char → Option (Nested Regex)
  | 0, _, _, _, _, _ => none
  | steps + 1, switches, level, outer, names, chars =>
    match switches.skip chars with
    | [] => if outer.isEmpty then some level.content else none
    | c :: rest =>
      let repeated (least : Nat) (most : Option Nat) (rest : List Char) : Option (Nested Regex) :=
        let (greedy, rest) := readGreed switches rest
        (level.repeatLast? least most greedy).bind fun level ↦
          readFrom? steps switches level outer names rest
      let item (found : Option Regex) (depth : Nat) (rest : List Char) : Option (Nested Regex) :=
        found.bind fun found ↦
          readFrom? steps switches (level.push ⟨found, depth⟩) outer names rest
      match c with
      | '(' =>
        match readGroupHead? switches rest with
        | none => none
        | some (.group inside captures, rest) =>
          readFrom? steps inside (.opened switches captures) (level :: outer) names rest
        | some (.named name, rest) =>
          if name ∈ names then none
          else readFrom? steps switches (.opened switches true) (level :: outer)
            (name :: names) rest
        | some (.switches after, rest) =>
          readFrom? steps after { level with items := none :: level.items } outer names rest
      | ')' =>
        match outer with
        | [] => none
        | enclosing :: more =>
          readFrom? steps level.outer (enclosing.push level.close) more names rest
      | '|' => readFrom? steps switches level.branch outer names rest
      | '*' => repeated 0 none rest
      | '+' => repeated 1 none rest
      | '?' => repeated 0 (some 1) rest
      | '\x7b' =>
        match readBounds? switches rest with
        | none => none
        | some (least, most, rest) => repeated least most (switches.skip rest)
      | '\\' =>
        match readEscape? switches rest with
        | none => none
        | some (escape, rest) => item (ofEscape? switches escape) 0 rest
      | '[' =>
        let (opened, rest) := openClass switches rest
        match readClass? switches (rest.length + 1) opened [] rest with
        | none => none
        | some (accepted, rest) => item (some (.char accepted.value)) accepted.depth rest
      | '.' => item (switches.dot?.map .char) 0 rest
      | '^' => item (some (.look switches.startLook)) 0 rest
      | '$' => item (some (.look switches.endLook)) 0 rest
      | _ => item ((switches.literal? c false).map .char) 0 rest

/-- The depth to which the parts of a pattern can be nested. -/
def depthLimit : Nat := 250

/-- Reads a pattern; none when it is malformed or too large. -/
def ofPattern? (pattern : List Char) : Option Regex := do
  let found ← readFrom? (pattern.length + 1) {} (.opened {} false) [] [] pattern
  if found.depth ≤ depthLimit ∧ found.value.fits then some found.value else none

end Regex

/-- The engine that reads these patterns. -/
def RegexEngine.standard : RegexEngine where
  compile? pattern := (Regex.ofPattern? pattern).map Regex.compiled

end Packrat
