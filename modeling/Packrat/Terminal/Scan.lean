/-!
# Outcomes of scans

Looking for something at the head of a text finds it, or finds that it is not there. One terminal
can also go round for ever: the scan of a quoted string with an empty escaped quote. `Scan` tells
the three apart, so that a scan that never ends is a value and everything else stays a total
function.
-/

set_option autoImplicit false
set_option relaxedAutoImplicit false

namespace Packrat

/-- What looking for something at the head of a text comes to. -/
inductive Scan (α : Type) where
  /-- It was found. -/
  | found (value : α)
  /-- It is not there. -/
  | missing
  /-- The scan never comes to an end. -/
  | endless
deriving DecidableEq, Repr

namespace Scan

variable {α β γ : Type} {scan : Scan α} {f : α → β}

def ofOption : Option α → Scan α
  | some value => .found value
  | none => .missing

def map (f : α → β) : Scan α → Scan β
  | .found value => .found (f value)
  | .missing => .missing
  | .endless => .endless

@[simp] theorem ofOption_some (value : α) : ofOption (some value) = .found value := rfl

@[simp] theorem ofOption_none : ofOption (none : Option α) = .missing := rfl

@[simp] theorem map_found (f : α → β) (value : α) : (found value).map f = .found (f value) := rfl

@[simp] theorem map_missing (f : α → β) : (missing : Scan α).map f = .missing := rfl

@[simp] theorem map_endless (f : α → β) : (endless : Scan α).map f = .endless := rfl

@[simp] theorem map_ofOption (f : α → β) (outcome : Option α) :
    (ofOption outcome).map f = ofOption (outcome.map f) := by
  cases outcome <;> rfl

theorem map_congr {f g : α → β} (hsame : ∀ value, scan = .found value → f value = g value) :
    scan.map f = scan.map g := by
  cases scan with
  | found value => exact congrArg found (hsame value rfl)
  | missing => rfl
  | endless => rfl

theorem map_map (g : β → γ) (f : α → β) (scan : Scan α) :
    (scan.map f).map g = scan.map (g ∘ f) := by
  cases scan <;> rfl

@[simp] theorem ofOption_eq_found_iff {outcome : Option α} {value : α} :
    ofOption outcome = .found value ↔ outcome = some value := by
  cases outcome <;> simp

@[simp] theorem ofOption_eq_missing_iff {outcome : Option α} :
    ofOption outcome = .missing ↔ outcome = none := by
  cases outcome <;> simp

@[simp] theorem ofOption_ne_endless (outcome : Option α) : ofOption outcome ≠ .endless := by
  cases outcome <;> simp

theorem map_eq_found_iff {value : β} :
    scan.map f = .found value ↔ ∃ inner, scan = .found inner ∧ f inner = value := by
  cases scan <;> simp

theorem map_eq_ofOption_iff {outcome : Option β} :
    scan.map f = .ofOption outcome ↔ ∃ inner, scan = .ofOption inner ∧ inner.map f = outcome := by
  constructor
  · intro hmap
    cases scan with
    | found value => exact ⟨some value, rfl, (ofOption_eq_found_iff.mp hmap.symm).symm⟩
    | missing => exact ⟨none, rfl, (ofOption_eq_missing_iff.mp hmap.symm).symm⟩
    | endless => exact absurd hmap.symm (ofOption_ne_endless outcome)
  · rintro ⟨inner, rfl, rfl⟩
    exact map_ofOption f inner

theorem ofOption_injective {first second : Option α} (hsame : ofOption first = ofOption second) :
    first = second := by
  cases first with
  | some value => exact (ofOption_eq_found_iff.mp hsame.symm).symm
  | none => exact (ofOption_eq_missing_iff.mp hsame.symm).symm

@[simp] theorem map_eq_endless_iff : scan.map f = .endless ↔ scan = .endless := by
  cases scan <;> simp

end Scan

end Packrat
