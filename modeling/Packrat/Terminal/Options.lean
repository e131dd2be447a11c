import Packrat.Text.Lowercase

/-!
# One of several strings

Alternatives that are strings are tried in order, so an option that is an initial part of a later
one would hide it. `arrange` moves every option ahead of the earlier options that are initial parts
of it and drops repeated ones. `caselessPrefix` compares the head of a text with a string character
by character, in lower case.

An empty option would match anywhere, so `Options` are strings that are not empty, and
`Options.ofList` drops the others.
-/

set_option autoImplicit false
set_option relaxedAutoImplicit false

namespace Packrat

/-- The initial run of a text that equals a string, when case is ignored character by character. -/
def caselessPrefix : List Char → List Char → Option (List Char)
  | [], _ => some []
  | _ :: _, [] => none
  | expected :: more, c :: rest =>
    if c = expected ∨ lowerChar c = lowerChar expected then
      (caselessPrefix more rest).map (c :: ·)
    else none

/-- The initial run of a text that equals a string. -/
def stringPrefix (caseless : Bool) (expected chars : List Char) : Option (List Char) :=
  if caseless then caselessPrefix expected chars
  else if expected.isPrefixOf chars then some expected
  else none

/-- Strings of which one is to be matched, in the order in which they are tried. -/
structure Options where
  /-- The strings. -/
  list : List (List Char)
  /-- None of them is empty. -/
  nonempty : ∀ option ∈ list, option ≠ []
deriving DecidableEq, Repr

namespace Options

/-- The first element that satisfies a test, and the others in order. -/
def pull? {α : Type} (test : α → Bool) : List α → Option (α × List α)
  | [] => none
  | first :: rest =>
    if test first then some (first, rest)
    else (pull? test rest).map fun found ↦ (found.1, first :: found.2)

def key (caseless : Bool) (option : List Char) : List Char :=
  if caseless then lowercase option else option

def weight (caseless : Bool) : List (List Char) → Nat
  | [] => 0
  | option :: rest => (key caseless option).length + weight caseless rest

/-- Pulling an element out of a list takes its share of the length and of the weight. -/
theorem pull?_sizes (caseless : Bool) {test : List Char → Bool} {options others : List (List Char)}
    {found : List Char} (pulled : pull? test options = some (found, others)) :
    test found = true ∧ options.length = others.length + 1 ∧
      weight caseless options = (key caseless found).length + weight caseless others := by
  induction options generalizing others with
  | nil => simp [pull?] at pulled
  | cons first rest ih =>
    unfold pull? at pulled
    split at pulled
    next holds =>
      simp only [Option.some.injEq, Prod.mk.injEq] at pulled
      obtain ⟨rfl, rfl⟩ := pulled
      simp [weight, holds]
    next =>
      obtain ⟨pair, inner, same⟩ := Option.map_eq_some_iff.1 pulled
      obtain ⟨rfl, rfl⟩ := Prod.mk.inj same
      obtain ⟨holds, lengths, weights⟩ := ih inner
      refine ⟨holds, by simp [lengths], ?_⟩
      simp only [weight]
      omega

/-- Arranges options so that none hides a later one. The head is compared with the options after it:
one with the same form is dropped, and one that the head is an initial part of takes its place. -/
def arrange (caseless : Bool) : List (List Char) → List (List Char)
  | [] => []
  | head :: rest =>
    match _pulled : pull? (fun option ↦ (key caseless head).isPrefixOf (key caseless option))
      rest with
    | none => head :: arrange caseless rest
    | some (found, others) =>
      if _same : key caseless found = key caseless head then arrange caseless (head :: others)
      else arrange caseless (found :: head :: others)
termination_by options =>
  (options.length, weight caseless options - (key caseless (options.headD [])).length)
decreasing_by
  · exact Prod.Lex.left _ _ (by simp)
  · obtain ⟨_, lengths, _⟩ := pull?_sizes caseless _pulled
    exact Prod.Lex.left _ _ (by simp [lengths])
  · obtain ⟨holds, lengths, weights⟩ := pull?_sizes caseless _pulled
    have longer : (key caseless head).length < (key caseless found).length := by
      obtain ⟨more, split⟩ := List.isPrefixOf_iff_prefix.1 holds
      rw [← split, List.length_append]
      have : more ≠ [] := fun none ↦ _same (by rw [← split, none, List.append_nil])
      have := List.length_pos_iff.2 this
      omega
    have lengths' : (found :: head :: others).length = (head :: rest).length := by simp [lengths]
    rw [lengths']
    apply Prod.Lex.right
    simp only [List.headD_cons]
    have whole : weight caseless (head :: rest) =
        (key caseless head).length + weight caseless rest := by simp [weight]
    have moved : weight caseless (found :: head :: others) =
        (key caseless found).length + ((key caseless head).length + weight caseless others) := by
      simp [weight]
    omega

/-- Pulling an element out of a list and putting it in front moves elements around and adds none. -/
theorem mem_of_pull? {α : Type} {test : α → Bool} {options others : List α} {found option : α}
    (pulled : pull? test options = some (found, others)) (among : option ∈ found :: others) :
    option ∈ options := by
  induction options generalizing others with
  | nil => simp [pull?] at pulled
  | cons first rest ih =>
    unfold pull? at pulled
    split at pulled
    next =>
      simp only [Option.some.injEq, Prod.mk.injEq] at pulled
      obtain ⟨rfl, rfl⟩ := pulled
      exact among
    next =>
      obtain ⟨pair, inner, same⟩ := Option.map_eq_some_iff.1 pulled
      obtain ⟨rfl, rfl⟩ := Prod.mk.inj same
      rcases List.mem_cons.1 among with rfl | later
      · exact List.mem_cons_of_mem _ (ih inner List.mem_cons_self)
      · rcases List.mem_cons.1 later with rfl | further
        · exact List.mem_cons_self
        · exact List.mem_cons_of_mem _ (ih inner (List.mem_cons_of_mem _ further))

theorem mem_of_mem_arrange {caseless : Bool} {options : List (List Char)} {option : List Char}
    (among : option ∈ arrange caseless options) : option ∈ options := by
  fun_induction arrange caseless options with
  | case1 => exact among
  | case2 head rest pulled ih =>
    rcases List.mem_cons.1 among with rfl | later
    · exact List.mem_cons_self
    · exact List.mem_cons_of_mem _ (ih later)
  | case3 head rest found others pulled same ih =>
    rcases List.mem_cons.1 (ih among) with rfl | later
    · exact List.mem_cons_self
    · exact List.mem_cons_of_mem _ (mem_of_pull? pulled (List.mem_cons_of_mem _ later))
  | case4 head rest found others pulled differs ih =>
    rcases List.mem_cons.1 (ih among) with rfl | later
    · exact List.mem_cons_of_mem _ (mem_of_pull? pulled List.mem_cons_self)
    · rcases List.mem_cons.1 later with rfl | further
      · exact List.mem_cons_self
      · exact List.mem_cons_of_mem _ (mem_of_pull? pulled (List.mem_cons_of_mem _ further))

/-- The options in the order in which they are tried; empty ones are dropped. -/
def ofList (caseless : Bool) (options : List (List Char)) : Options where
  list := arrange caseless (options.filter fun option ↦ !option.isEmpty)
  nonempty option among := by
    have kept := (List.mem_filter.1 (mem_of_mem_arrange among)).2
    rintro rfl
    simp at kept

end Options

end Packrat
