import Packrat.Proofs.Grammar.Compiling

/-!
# Expressions one after the other

Two expressions one after the other may be joined as two parts of a sequence, or as the library
joins them, which takes the parts of a sequence on the left as they are (`Expr.Joins`). Then the
sequence on the left became no node, but its parts did.
-/

set_option autoImplicit false
set_option relaxedAutoImplicit false

namespace Packrat

namespace Expr

/-- One expression after another: both as parts of a sequence, or the second as a further part of
the first. -/
inductive Joins (first second : Expr) : Expr → Prop
  | parts (identity : Nat) : Joins first second ⟨identity, .sequence [first, second] none⟩
  | library (identity : Nat) :
    Joins first second ⟨identity, .sequence (first.parts.1 ++ [second]) first.parts.2⟩

/-- An expression that is no sequence is its only part. -/
theorem parts_cases (expr : Expr) :
    (∃ identity parts commit, expr = ⟨identity, .sequence parts commit⟩ ∧
      expr.parts = (parts, commit)) ∨ expr.parts = ([expr], none) := by
  obtain ⟨identity, shape⟩ := expr
  cases shape with
  | sequence parts commit => exact Or.inl ⟨identity, parts, commit, rfl, rfl⟩
  | _ => exact Or.inr rfl

variable {nodes : Array Node} {names : List String} {skip : Option CharSet}
  {expr first second joined part : Expr} {id : NodeId}

/-- The parts of a sequence that became a node became nodes. -/
theorem CompilesTo.exists_part {identity : Nat} {parts : List Expr} {commit : Option Nat}
    (hid : (⟨identity, .sequence parts commit⟩ : Expr).CompilesTo nodes names skip id)
    (hpart : part ∈ parts) :
    ∃ inner, part.CompilesTo nodes names skip inner :=
  hid.exists_child (List.mem_map_of_mem (f := fun part ↦ (skip, part)) hpart)

/-- So did the parts of every expression that became a node. -/
theorem CompilesTo.exists_own_part (hid : expr.CompilesTo nodes names skip id)
    (hpart : part ∈ expr.parts.1) :
    ∃ inner, part.CompilesTo nodes names skip inner := by
  rcases expr.parts_cases with ⟨identity, parts, commit, rfl, hparts⟩ | hparts
  · rw [hparts] at hpart
    exact hid.exists_part hpart
  · rw [hparts] at hpart
    exact ⟨id, List.mem_singleton.mp hpart ▸ hid⟩

/-- The parts of the first of two expressions that are joined became nodes if the whole did. -/
theorem Joins.exists_first_part (hjoins : first.Joins second joined)
    (hid : joined.CompilesTo nodes names skip id) (hpart : part ∈ first.parts.1) :
    ∃ inner, part.CompilesTo nodes names skip inner := by
  cases hjoins with
  | parts identity =>
    obtain ⟨own, hown⟩ := hid.exists_part List.mem_cons_self
    exact hown.exists_own_part hpart
  | library identity => exact hid.exists_part (List.mem_append_left _ hpart)

/-- The second of two expressions that are joined became a node if the whole did. -/
theorem Joins.exists_second (hjoins : first.Joins second joined)
    (hid : joined.CompilesTo nodes names skip id) :
    ∃ inner, second.CompilesTo nodes names skip inner := by
  cases hjoins with
  | parts identity => exact hid.exists_part (List.mem_cons_of_mem _ List.mem_cons_self)
  | library identity => exact hid.exists_part (List.mem_append_right _ List.mem_cons_self)

/-- Nothing is wrong with a sequence if nothing is wrong with its parts. -/
theorem sound_sequence_iff {identity : Nat} {parts : List Expr} {commit : Option Nat} :
    (⟨identity, .sequence parts commit⟩ : Expr).Sound names ↔ ∀ part ∈ parts, part.Sound names := by
  rw [Sound, throughout_iff]
  refine ⟨fun hsound part hpart ↦ hsound.2 (none, part) (List.mem_map_of_mem hpart),
    fun hparts ↦ ?_⟩
  refine ⟨True.intro, fun child hchild ↦ ?_⟩
  obtain ⟨part, hpart, rfl⟩ := List.mem_map.mp hchild
  exact hparts part hpart

/-- Nothing is wrong with an expression if nothing is wrong with its parts. -/
theorem sound_parts_iff : (∀ part ∈ expr.parts.1, part.Sound names) ↔ expr.Sound names := by
  rcases expr.parts_cases with ⟨identity, parts, commit, rfl, hparts⟩ | hparts
  · rw [hparts, sound_sequence_iff]
  · rw [hparts]
    exact List.forall_mem_singleton

/-- Nothing is wrong with two expressions that are joined if nothing is wrong with either. -/
theorem Joins.sound_iff (hjoins : first.Joins second joined) :
    joined.Sound names ↔ first.Sound names ∧ second.Sound names := by
  cases hjoins with
  | parts identity =>
    rw [sound_sequence_iff]
    simp only [List.mem_cons, List.not_mem_nil, or_false, forall_eq_or_imp, forall_eq]
  | library identity =>
    rw [sound_sequence_iff, List.forall_mem_append, sound_parts_iff, List.forall_mem_singleton]

end Expr

end Packrat
