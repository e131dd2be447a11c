import Packrat.Proofs.Terminal.Numerals
import Packrat.Results.Basic

/-!
# Values on a line

What is written of a value can be read in one way only. The first character tells which kind of
value is written (`Value.Kind.ofLead`). A string ends at its closing quote: between double quotes
there is no double quote, and between apostrophes every apostrophe is escaped
(`stringText_append_inj`). A number ends where no digit follows. Lists and dictionaries end at their
brackets, and items and entries at commas, since neither a comma nor a bracket starts a value.

So two values without floats are equal when they are written alike, whatever stands after them
(`Value.chars_append_inj`), and results without floats are written alike just when their values are
the same (`Results.render_unambiguous`). Groups write their tokens only, so names make no difference
to what is written.
-/

set_option autoImplicit false
set_option relaxedAutoImplicit false

namespace Packrat

/-! ### Strings -/

theorem append_quote_inj {quote : Char} :
    ∀ {first second rest other : List Char}, quote ∉ first → quote ∉ second →
      first ++ quote :: rest = second ++ quote :: other → first = second ∧ rest = other
  | [], [], rest, other, _, _, heq => ⟨rfl, (List.cons.inj heq).2⟩
  | [], c :: second, rest, other, _, hsecond, heq => by
    rw [(List.cons.inj heq).1] at hsecond
    exact absurd List.mem_cons_self hsecond
  | c :: first, [], rest, other, hfirst, _, heq => by
    rw [← (List.cons.inj heq).1] at hfirst
    exact absurd List.mem_cons_self hfirst
  | c :: first, d :: second, rest, other, hfirst, hsecond, heq => by
    obtain ⟨rfl, htail⟩ := List.cons.inj heq
    obtain ⟨rfl, rfl⟩ := append_quote_inj (fun hmem ↦ hfirst (List.mem_cons_of_mem _ hmem))
      (fun hmem ↦ hsecond (List.mem_cons_of_mem _ hmem)) htail
    exact ⟨rfl, rfl⟩

theorem escapeChar_append_ne (c : Char) (rest other : List Char) :
    escapeChar c ++ rest ≠ '\x27' :: other := by
  unfold escapeChar
  repeat' split
  all_goals simp_all

theorem escapeChar_append_inj {c d : Char} {rest other : List Char}
    (heq : escapeChar c ++ rest = escapeChar d ++ other) : c = d ∧ rest = other := by
  unfold escapeChar at heq
  grind

theorem flatMap_escapeChar_inj : ∀ {first second rest other : List Char},
    first.flatMap escapeChar ++ '\x27' :: rest = second.flatMap escapeChar ++ '\x27' :: other →
      first = second ∧ rest = other
  | [], [], rest, other, heq => ⟨rfl, (List.cons.inj heq).2⟩
  | [], d :: second, rest, other, heq => by
    rw [List.flatMap_cons, List.append_assoc] at heq
    exact absurd heq.symm (escapeChar_append_ne d _ _)
  | c :: first, [], rest, other, heq => by
    rw [List.flatMap_cons, List.append_assoc] at heq
    exact absurd heq (escapeChar_append_ne c _ _)
  | c :: first, d :: second, rest, other, heq => by
    rw [List.flatMap_cons, List.flatMap_cons, List.append_assoc, List.append_assoc] at heq
    obtain ⟨rfl, htail⟩ := escapeChar_append_inj heq
    obtain ⟨rfl, rfl⟩ := flatMap_escapeChar_inj htail
    exact ⟨rfl, rfl⟩

/-- The two ways of writing a string: it is put between double quotes as it is, if it holds none of
them but an apostrophe, or between apostrophes with escapes. -/
theorem stringText_cases (content : List Char) :
    ('\x22' ∉ content ∧ stringText content = '\x22' :: content ++ ['\x22']) ∨
      stringText content = '\x27' :: content.flatMap escapeChar ++ ['\x27'] := by
  unfold stringText
  split
  next hraw => exact Or.inl ⟨by simpa using (Bool.and_eq_true_iff.mp hraw).2, rfl⟩
  next => exact Or.inr rfl

/-- Strings that are written alike are the same, whatever stands after them. -/
theorem stringText_append_inj {first second rest other : List Char}
    (heq : stringText first ++ rest = stringText second ++ other) :
    first = second ∧ rest = other := by
  rcases stringText_cases first with ⟨hfirst, htext⟩ | htext <;>
    rcases stringText_cases second with ⟨hsecond, htext'⟩ | htext' <;>
    simp only [htext, htext', List.cons_append, List.append_assoc, List.nil_append] at heq
  · exact append_quote_inj hfirst hsecond (List.cons.inj heq).2
  · cases (List.cons.inj heq).1
  · cases (List.cons.inj heq).1
  · exact flatMap_escapeChar_inj (List.cons.inj heq).2

/-! ### Numbers -/

/-- Numbers that are written alike are the same, if no digit follows. The number is what a scanner
reads. -/
theorem integerText_append_inj {first second : Int64} {rest other : List Char}
    (hrest : ∀ c ∈ rest.head?, ¬ isDigit c = true) (hother : ∀ c ∈ other.head?, ¬ isDigit c = true)
    (heq : integerText first.toInt ++ rest = integerText second.toInt ++ other) :
    first = second ∧ rest = other := by
  have hread := Numeral.scan_integerText first hrest
  rw [heq, Numeral.scan_integerText second hother] at hread
  obtain ⟨htext, htoken⟩ := Prod.mk.inj (Option.some.inj hread)
  rw [htext] at heq
  exact ⟨(Token.int.inj htoken).symm, List.append_cancel_left heq⟩

/-! ### Kinds of values -/

namespace Value

/-- There is no float in a value. -/
inductive FloatFree : Value → Prop
  | str (content : String) : FloatFree (.str content)
  | int (number : Int64) : FloatFree (.int number)
  | bool (truth : Bool) : FloatFree (.bool truth)
  | list {items : List Value} (hitems : ∀ item ∈ items, FloatFree item) : FloatFree (.list items)
  | dict {entries : List (String × Value)} (hentries : ∀ entry ∈ entries, FloatFree entry.2) :
    FloatFree (.dict entries)

/-- The kinds of values without floats. -/
inductive Kind where
  | str
  | int
  | bool
  | list
  | dict

/-- The kind of value whose text starts with a character. -/
def Kind.ofLead (c : Char) : Option Kind :=
  if c = '\x27' ∨ c = '\x22' then some .str
  else if c = '-' ∨ isDigit c = true then some .int
  else if c = 'T' ∨ c = 'F' then some .bool
  else if c = '[' then some .list
  else if c = '\x7b' then some .dict
  else none

/-- The kind of a value; a float has none. -/
def kind? : Value → Option Kind
  | .str _ => some .str
  | .int _ => some .int
  | .float _ => none
  | .bool _ => some .bool
  | .list _ => some .list
  | .dict _ => some .dict

theorem exists_stringText_eq_cons (content : List Char) :
    ∃ c more, stringText content = c :: more ∧ Kind.ofLead c = some .str := by
  rcases stringText_cases content with ⟨-, htext⟩ | htext
  · exact ⟨'\x22', _, htext, rfl⟩
  · exact ⟨'\x27', _, htext, rfl⟩

theorem Kind.ofLead_of_isDigit {c : Char} (hdigit : isDigit c = true) : ofLead c = some .int := by
  have hquote : ¬ (c = '\x27' ∨ c = '\x22') := by
    rintro (rfl | rfl) <;> cases hdigit
  rw [ofLead, if_neg hquote, if_pos (Or.inr hdigit)]

theorem exists_integerText_eq_cons (value : Int) :
    ∃ c more, integerText value = c :: more ∧ Kind.ofLead c = some .int := by
  rw [integerText]
  split
  next => exact ⟨'-', _, rfl, rfl⟩
  next =>
    cases hdigits : Nat.toDigits 10 value.natAbs with
    | nil => exact absurd hdigits Nat.toDigits_ne_nil
    | cons c more =>
      have hlead : c ∈ Nat.toDigits 10 value.natAbs := hdigits ▸ List.mem_cons_self
      exact ⟨c, more, rfl, Kind.ofLead_of_isDigit (isDigit_of_mem_toDigits hlead)⟩

/-- The first character of what is written of a value tells its kind. -/
theorem exists_chars_eq_cons {value : Value} (hfree : value.FloatFree) :
    ∃ c more, value.chars = c :: more ∧ Kind.ofLead c = value.kind? := by
  cases hfree with
  | str content =>
    rw [chars]
    exact exists_stringText_eq_cons _
  | int number =>
    rw [chars]
    exact exists_integerText_eq_cons _
  | bool truth =>
    rw [chars]
    cases truth
    · exact ⟨'F', _, rfl, rfl⟩
    · exact ⟨'T', _, rfl, rfl⟩
  | list hitems =>
    rw [chars]
    exact ⟨'[', _, rfl, rfl⟩
  | dict hentries =>
    rw [chars]
    exact ⟨'\x7b', _, rfl, rfl⟩

theorem FloatFree.isSome_kind? {value : Value} (hfree : value.FloatFree) :
    value.kind?.isSome = true := by
  cases hfree <;> rfl

/-- What is written of a value starts with no character that starts no value. -/
theorem chars_append_ne {value : Value} (hfree : value.FloatFree) {c : Char}
    (hlead : Kind.ofLead c = none) (rest other : List Char) : value.chars ++ rest ≠ c :: other := by
  intro heq
  obtain ⟨d, more, htext, hkind⟩ := exists_chars_eq_cons hfree
  rw [htext] at heq
  rw [(List.cons.inj heq).1, hlead] at hkind
  have hsome := hfree.isSome_kind?
  rw [← hkind] at hsome
  cases hsome

/-- Values that are written alike are of one kind. -/
theorem kind?_eq_of_append {first second : Value} (hfirst : first.FloatFree)
    (hsecond : second.FloatFree) {rest other : List Char}
    (heq : first.chars ++ rest = second.chars ++ other) : first.kind? = second.kind? := by
  obtain ⟨c, more, htext, hkind⟩ := exists_chars_eq_cons hfirst
  obtain ⟨d, more', htext', hkind'⟩ := exists_chars_eq_cons hsecond
  rw [htext, htext'] at heq
  rw [← hkind, ← hkind', (List.cons.inj heq).1]

/-! ### Reading in one way -/

/-- After an item there is a comma or a bracket. -/
theorem head?_moreItemsChars {items : List Value} {closing : Char} {rest : List Char}
    (hclosing : ¬ isDigit closing = true) :
    ∀ c ∈ (moreItemsChars items ++ closing :: rest).head?, ¬ isDigit c = true := by
  intro c hc
  cases items <;> rw [moreItemsChars] at hc <;> cases hc
  · exact hclosing
  · decide

/-- After an entry there is a comma or a bracket. -/
theorem head?_moreEntriesChars {entries : List (String × Value)} {closing : Char} {rest : List Char}
    (hclosing : ¬ isDigit closing = true) :
    ∀ c ∈ (moreEntriesChars entries ++ closing :: rest).head?, ¬ isDigit c = true := by
  intro c hc
  cases entries <;> rw [moreEntriesChars] at hc <;> cases hc
  · exact hclosing
  · decide

mutual

/-- Values without floats that are written alike are the same, if no digit stands after them. -/
theorem chars_append_inj : ∀ {first second : Value} {rest other : List Char}, first.FloatFree →
    second.FloatFree → (∀ c ∈ rest.head?, ¬ isDigit c = true) →
      (∀ c ∈ other.head?, ¬ isDigit c = true) →
    first.chars ++ rest = second.chars ++ other → first = second ∧ rest = other
  | .str content, second, rest, other, hfirst, hsecond, _, _, heq => by
    have hkind := kind?_eq_of_append hfirst hsecond heq
    cases second <;> cases hkind
    rw [chars, chars] at heq
    exact (stringText_append_inj heq).imp_left fun hcontent ↦
      congrArg _ (String.toList_inj.mp hcontent)
  | .int number, second, rest, other, hfirst, hsecond, hrest, hother, heq => by
    have hkind := kind?_eq_of_append hfirst hsecond heq
    cases second <;> cases hkind
    rw [chars, chars] at heq
    exact (integerText_append_inj hrest hother heq).imp_left (congrArg _)
  | .float number, second, rest, other, hfirst, _, _, _, _ => nomatch hfirst
  | .bool truth, second, rest, other, hfirst, hsecond, _, _, heq => by
    have hkind := kind?_eq_of_append hfirst hsecond heq
    cases second <;> cases hkind
    next truth' =>
    rw [chars, chars] at heq
    cases truth <;> cases truth' <;> simp_all [truthText]
  | .list items, second, rest, other, .list hitems, hsecond, _, _, heq => by
    have hkind := kind?_eq_of_append (.list hitems) hsecond heq
    cases second <;> cases hkind
    cases hsecond with
    | list hitems' =>
      rw [chars, chars, List.cons_append, List.cons_append, List.append_assoc,
        List.append_assoc] at heq
      exact (itemsChars_append_inj hitems hitems' (List.cons.inj heq).2).imp_left (congrArg _)
  | .dict entries, second, rest, other, .dict hentries, hsecond, _, _, heq => by
    have hkind := kind?_eq_of_append (.dict hentries) hsecond heq
    cases second <;> cases hkind
    cases hsecond with
    | dict hentries' =>
      rw [chars, chars, List.cons_append, List.cons_append, List.append_assoc,
        List.append_assoc] at heq
      exact (entriesChars_append_inj hentries hentries' (List.cons.inj heq).2).imp_left (congrArg _)

/-- Items of lists that are written alike are the same. -/
theorem itemsChars_append_inj : ∀ {first second : List Value} {rest other : List Char},
    (∀ item ∈ first, item.FloatFree) → (∀ item ∈ second, item.FloatFree) →
    itemsChars first ++ ']' :: rest = itemsChars second ++ ']' :: other →
      first = second ∧ rest = other
  | [], [], rest, other, _, _, heq => ⟨rfl, (List.cons.inj heq).2⟩
  | [], item :: items, rest, other, _, hsecond, heq => by
    rw [itemsChars, itemsChars, List.append_assoc] at heq
    exact absurd heq.symm (chars_append_ne (hsecond item List.mem_cons_self) (by decide) _ _)
  | item :: items, [], rest, other, hfirst, _, heq => by
    rw [itemsChars, itemsChars, List.append_assoc] at heq
    exact absurd heq (chars_append_ne (hfirst item List.mem_cons_self) (by decide) _ _)
  | item :: items, item' :: items', rest, other, hfirst, hsecond, heq => by
    rw [itemsChars, itemsChars, List.append_assoc, List.append_assoc] at heq
    obtain ⟨rfl, hmore⟩ := chars_append_inj (hfirst item List.mem_cons_self)
      (hsecond item' List.mem_cons_self) (head?_moreItemsChars (by decide))
      (head?_moreItemsChars (by decide)) heq
    obtain ⟨rfl, rfl⟩ := moreItemsChars_append_inj
      (fun value hvalue ↦ hfirst value (List.mem_cons_of_mem _ hvalue))
      (fun value hvalue ↦ hsecond value (List.mem_cons_of_mem _ hvalue)) hmore
    exact ⟨rfl, rfl⟩

/-- Further items of lists that are written alike are the same. -/
theorem moreItemsChars_append_inj : ∀ {first second : List Value} {rest other : List Char},
    (∀ item ∈ first, item.FloatFree) → (∀ item ∈ second, item.FloatFree) →
    moreItemsChars first ++ ']' :: rest = moreItemsChars second ++ ']' :: other →
      first = second ∧ rest = other
  | [], [], rest, other, _, _, heq => ⟨rfl, (List.cons.inj heq).2⟩
  | [], item :: items, rest, other, _, _, heq => by
    rw [moreItemsChars, moreItemsChars] at heq
    cases (List.cons.inj heq).1
  | item :: items, [], rest, other, _, _, heq => by
    rw [moreItemsChars, moreItemsChars] at heq
    cases (List.cons.inj heq).1
  | item :: items, item' :: items', rest, other, hfirst, hsecond, heq => by
    rw [moreItemsChars, moreItemsChars] at heq
    simp only [List.cons_append, List.append_assoc, List.cons.injEq, true_and] at heq
    obtain ⟨rfl, hmore⟩ := chars_append_inj (hfirst item List.mem_cons_self)
      (hsecond item' List.mem_cons_self) (head?_moreItemsChars (by decide))
      (head?_moreItemsChars (by decide)) heq
    obtain ⟨rfl, rfl⟩ := moreItemsChars_append_inj
      (fun value hvalue ↦ hfirst value (List.mem_cons_of_mem _ hvalue))
      (fun value hvalue ↦ hsecond value (List.mem_cons_of_mem _ hvalue)) hmore
    exact ⟨rfl, rfl⟩

/-- Entries of dictionaries that are written alike are the same. -/
theorem entriesChars_append_inj : ∀ {first second : List (String × Value)} {rest other : List Char},
    (∀ entry ∈ first, entry.2.FloatFree) → (∀ entry ∈ second, entry.2.FloatFree) →
    entriesChars first ++ '\x7d' :: rest = entriesChars second ++ '\x7d' :: other →
      first = second ∧ rest = other
  | [], [], rest, other, _, _, heq => ⟨rfl, (List.cons.inj heq).2⟩
  | [], (key, value) :: entries, rest, other, _, _, heq => by
    obtain ⟨c, more, htext, hkind⟩ := exists_stringText_eq_cons key.toList
    rw [entriesChars, entriesChars, htext] at heq
    rw [← (List.cons.inj heq).1] at hkind
    cases hkind
  | (key, value) :: entries, [], rest, other, _, _, heq => by
    obtain ⟨c, more, htext, hkind⟩ := exists_stringText_eq_cons key.toList
    rw [entriesChars, entriesChars, htext] at heq
    rw [(List.cons.inj heq).1] at hkind
    cases hkind
  | (key, value) :: entries, (key', value') :: entries', rest, other, hfirst, hsecond, heq => by
    rw [entriesChars, entriesChars, List.append_assoc, List.append_assoc] at heq
    obtain ⟨hkey, htail⟩ := stringText_append_inj heq
    obtain rfl := String.toList_inj.mp hkey
    simp only [List.cons_append, List.append_assoc, List.cons.injEq, true_and] at htail
    obtain ⟨rfl, hmore⟩ := chars_append_inj (hfirst (key, value) List.mem_cons_self)
      (hsecond (key, value') List.mem_cons_self) (head?_moreEntriesChars (by decide))
      (head?_moreEntriesChars (by decide)) htail
    obtain ⟨rfl, rfl⟩ := moreEntriesChars_append_inj
      (fun entry hentry ↦ hfirst entry (List.mem_cons_of_mem _ hentry))
      (fun entry hentry ↦ hsecond entry (List.mem_cons_of_mem _ hentry)) hmore
    exact ⟨rfl, rfl⟩

/-- Further entries of dictionaries that are written alike are the same. -/
theorem moreEntriesChars_append_inj :
    ∀ {first second : List (String × Value)} {rest other : List Char},
      (∀ entry ∈ first, entry.2.FloatFree) → (∀ entry ∈ second, entry.2.FloatFree) →
    moreEntriesChars first ++ '\x7d' :: rest = moreEntriesChars second ++ '\x7d' :: other →
      first = second ∧ rest = other
  | [], [], rest, other, _, _, heq => ⟨rfl, (List.cons.inj heq).2⟩
  | [], (key, value) :: entries, rest, other, _, _, heq => by
    rw [moreEntriesChars, moreEntriesChars] at heq
    cases (List.cons.inj heq).1
  | (key, value) :: entries, [], rest, other, _, _, heq => by
    rw [moreEntriesChars, moreEntriesChars] at heq
    cases (List.cons.inj heq).1
  | (key, value) :: entries, (key', value') :: entries', rest, other, hfirst, hsecond, heq => by
    rw [moreEntriesChars, moreEntriesChars] at heq
    simp only [List.cons_append, List.append_assoc, List.cons.injEq, true_and] at heq
    obtain ⟨hkey, htail⟩ := stringText_append_inj heq
    obtain rfl := String.toList_inj.mp hkey
    simp only [List.cons.injEq, true_and] at htail
    obtain ⟨rfl, hmore⟩ := chars_append_inj (hfirst (key, value) List.mem_cons_self)
      (hsecond (key, value') List.mem_cons_self) (head?_moreEntriesChars (by decide))
      (head?_moreEntriesChars (by decide)) htail
    obtain ⟨rfl, rfl⟩ := moreEntriesChars_append_inj
      (fun entry hentry ↦ hfirst entry (List.mem_cons_of_mem _ hentry))
      (fun entry hentry ↦ hsecond entry (List.mem_cons_of_mem _ hentry)) hmore
    exact ⟨rfl, rfl⟩

end

end Value

/-! ### Results -/

mutual

/-- The value of a token that holds no float has none. -/
theorem Token.floatFree_toValue : ∀ {token : Token}, (∀ number, .float number ∉ token.scalars) →
    token.toValue.FloatFree
  | .str content, _ => .str content
  | .int number, _ => .int number
  | .float number, hfree => absurd (List.mem_singleton_self _) (hfree number)
  | .bool truth, _ => .bool truth
  | .group tokens names, hfree => by
    rw [toValue]
    rw [scalars] at hfree
    exact .list (floatFree_toValues hfree)

/-- The values of tokens that hold no float have none. -/
theorem Token.floatFree_toValues :
    ∀ {tokens : List Token}, (∀ number, .float number ∉ scalarsOf tokens) →
      ∀ item ∈ toValues tokens, item.FloatFree
  | [], _, item, hitem => by
    rw [toValues] at hitem
    cases hitem
  | token :: rest, hfree, item, hitem => by
    rw [scalarsOf] at hfree
    rw [toValues] at hitem
    rcases List.mem_cons.mp hitem with rfl | hlater
    · exact floatFree_toValue fun number hnumber ↦ hfree number (List.mem_append_left _ hnumber)
    · exact floatFree_toValues (fun number hnumber ↦ hfree number (List.mem_append_right _ hnumber))
        item hlater

end

/-- Values without floats that are written alike are the same. -/
theorem Value.eq_of_render_eq {first second : Value} (hfirst : first.FloatFree)
    (hsecond : second.FloatFree) (heq : first.render = second.render) : first = second := by
  have hchars : first.chars ++ [] = second.chars ++ [] := by rw [String.ofList_inj.mp heq]
  have hends : ∀ c ∈ ([] : List Char).head?, ¬ isDigit c = true := fun c hc ↦ nomatch hc
  exact (chars_append_inj hfirst hsecond hends hends hchars).1

namespace Results

/-- No scalar token of results is a float. -/
def FloatFree (results : Results) : Prop := ∀ number, .float number ∉ results.flatten

/-- What is written is unambiguous: values without floats that are written alike are the same, and
results without floats are written alike just when their values are the same. -/
theorem render_unambiguous :
    (∀ first second : Value, first.FloatFree → second.FloatFree → first.render = second.render →
      first = second) ∧ ∀ first second : Results, first.FloatFree → second.FloatFree →
        (first.render = second.render ↔ first.toValues = second.toValues) := by
  refine ⟨fun first second ↦ Value.eq_of_render_eq, fun first second hfirst hsecond ↦
    ⟨fun heq ↦ ?_, fun heq ↦ ?_⟩⟩
  · exact Value.list.inj (Value.eq_of_render_eq (.list (Token.floatFree_toValues hfirst))
      (.list (Token.floatFree_toValues hsecond)) heq)
  · rw [render, render, heq]

theorem floatFree_strings (contents : List String) : (ofTokens (contents.map .str)).FloatFree := by
  intro number hnumber
  change .float number ∈ Token.scalarsOf (contents.map .str) at hnumber
  induction contents with
  | nil =>
    rw [List.map_nil, Token.scalarsOf] at hnumber
    cases hnumber
  | cons content rest ih =>
    rw [List.map_cons, Token.scalarsOf, Token.scalars] at hnumber
    · exact (List.mem_append.mp hnumber).elim (fun hhead ↦ nomatch List.mem_singleton.mp hhead) ih
    · nofun

/-- A dictionary is not written like the string that imitates it, nor is a string with quotes and a
comma inside written like two strings. -/
theorem render_ne_imitation :
    (Value.dict [("k", .int 1)]).render ≠ (Value.str "\x7b'k': 1\x7d").render ∧
      (ofTokens [.str "a', 'b"]).FloatFree ∧ (ofTokens [.str "a", .str "b"]).FloatFree ∧
      (ofTokens [.str "a', 'b"]).render ≠ (ofTokens [.str "a", .str "b"]).render := by
  have hone : (ofTokens [.str "a', 'b"]).FloatFree := floatFree_strings ["a', 'b"]
  have htwo : (ofTokens [.str "a", .str "b"]).FloatFree := floatFree_strings ["a", "b"]
  have hdict : (Value.dict [("k", .int 1)]).FloatFree :=
    .dict fun entry hentry ↦ List.mem_singleton.mp hentry ▸ .int 1
  refine ⟨fun heq ↦ ?_, hone, htwo, fun heq ↦ ?_⟩
  · exact nomatch render_unambiguous.1 _ _ hdict (.str _) heq
  · have hsame := (render_unambiguous.2 _ _ hone htwo).mp heq
    simp [toValues, ofTokens, Token.toValues] at hsame

end Results

end Packrat
