import Packrat.Regex.Program
import Packrat.Terminal.Regex
import Std.Data.TreeSet

/-!
# Searching with a program

A search follows all ways through a program at once, in order of preference. `Program.reach`
collects the places that are reached without taking a character; a place that is reached again is
passed over, because the way that reached it first is preferred. `Program.lengthFrom?` takes the
text character by character and keeps what the most preferred way accepts. `Program.findFrom` looks
for the leftmost place of the text at which there is a match, and an expression is compiled into
this search (`Regex.compiled`).
-/

set_option autoImplicit false
set_option relaxedAutoImplicit false

namespace Packrat

namespace Program

/-- What has been reached at one place of the text. -/
structure Reached where
  /-- All places of the program that were reached. -/
  seen : Std.TreeSet Nat := {}
  /-- Those that take a character or accept, the last one first. -/
  waiting : List Nat := []

/-- Follows the instructions from a place as far as no character is taken. `before` and `after` are
the characters around the place in the text. Every step along a way marks one more place, so the
number of instructions bounds the length of a way. -/
def reach (program : Program) (before after : Option Char) : Nat → Nat → Reached → Reached
  | 0, _, reached => reached
  | room + 1, place, reached =>
    if reached.seen.contains place then reached
    else
      let marked := { reached with seen := reached.seen.insert place }
      match program.instruction? place with
      | none => marked
      | some (.char _ _) => { marked with waiting := place :: marked.waiting }
      | some .accept => { marked with waiting := place :: marked.waiting }
      | some (.look condition next) =>
        if condition.holds before after then program.reach before after room next marked else marked
      | some (.fork first second) =>
        program.reach before after room second (program.reach before after room first marked)

/-- The places reached from several places in order of preference, as far as no character is
taken. -/
def reachAll (program : Program) (before after : Option Char) (places : List Nat) : List Nat :=
  (places.foldl (fun reached place ↦
    program.reach before after (program.instructions.size + 1) place reached) {}).waiting.reverse

def accepts (program : Program) (place : Nat) : Bool :=
  program.instruction? place == some .accept

/-- The place after a place that takes the given character. -/
def step? (program : Program) (c : Char) (place : Nat) : Option Nat :=
  match program.instruction? place with
  | some (.char accepted next) => if accepted.contains c then some next else none
  | _ => none

/-- The number of characters that the preferred way accepts, going on from the given places. What
comes after an accepting place is less preferred than to stop there. -/
def lengthFrom? (program : Program) (places : List Nat) : List Char → Option Nat
  | [] => if places.any program.accepts then some 0 else none
  | c :: rest =>
    let stepped := (places.takeWhile fun place ↦ !program.accepts place).filterMap (program.step? c)
    let further :=
      if stepped.isEmpty then none
      else program.lengthFrom? (program.reachAll (some c) rest.head? stepped) rest
    match further with
    | some count => some (count + 1)
    | none => if places.any program.accepts then some 0 else none

/-- The number of characters of the match at the head of a text; `before` is the character before
it. -/
def length? (program : Program) (before : Option Char) (chars : List Char) : Option Nat :=
  program.lengthFrom? (program.reachAll before chars.head? [program.start]) chars

/-- Searches for the leftmost match in what follows a character. -/
def findFrom (program : Program) (before : Option Char) (chars : List Char) : Option RegexMatch :=
  match program.length? before chars with
  | some count => some ⟨[], chars.take count⟩
  | none =>
    match chars with
    | [] => none
    | c :: rest =>
      (program.findFrom (some c) rest).map fun found ↦ ⟨c :: found.skipped, found.matched⟩

/-- What is skipped before a match and the match are an initial part of the text. -/
theorem prefix_of_findFrom {program : Program} {chars : List Char} :
    ∀ {before : Option Char} {found : RegexMatch}, program.findFrom before chars = some found →
      found.skipped ++ found.matched <+: chars := by
  induction chars with
  | nil =>
    intro before found hfound
    unfold findFrom at hfound
    split at hfound
    · cases hfound
      exact List.take_prefix _ _
    · cases hfound
  | cons c rest ih =>
    intro before found hfound
    unfold findFrom at hfound
    split at hfound
    · cases hfound
      exact List.take_prefix _ _
    · obtain ⟨inner, hinner, rfl⟩ := Option.map_eq_some_iff.mp hfound
      exact List.cons_prefix_cons.mpr ⟨rfl, ih hinner⟩

end Program

namespace Regex

/-- An expression without the conditions on the start of the text in front of it. -/
def unbound : Regex → Regex
  | .cat (.look .textStart) rest => rest.unbound
  | r => r

/-- Whether a condition on the start of the text stands in front of an expression. -/
def isBound : Regex → Bool
  | .cat (.look .textStart) _ => true
  | _ => false

/-- The leftmost match in a text. An expression that is bound to the start of the text is tried
there alone. -/
def findWith (program : Program) (bound : Bool) (chars : List Char) : Option RegexMatch :=
  if bound then (program.length? none chars).map fun count ↦ ⟨[], chars.take count⟩
  else program.findFrom none chars

theorem prefix_of_findWith {program : Program} {bound : Bool} {chars : List Char}
    {found : RegexMatch} (hfound : findWith program bound chars = some found) :
    found.skipped ++ found.matched <+: chars := by
  unfold findWith at hfound
  split at hfound
  · obtain ⟨count, -, rfl⟩ := Option.map_eq_some_iff.mp hfound
    exact List.take_prefix _ _
  · exact Program.prefix_of_findFrom hfound

def compiled (r : Regex) : CompiledRegex :=
  let program := r.unbound.program
  let bound := r.isBound
  ⟨findWith program bound, prefix_of_findWith⟩

end Regex

end Packrat
