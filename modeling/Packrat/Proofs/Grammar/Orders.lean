import Mathlib.Data.List.Nodup
import Packrat.Proofs.Grammar.Compiling

/-!
# Rules in another order

A rule is known by its name. Where the names are different, the order in which rules are bound
decides about their numbers and about nothing else that a draft says: two drafts that bind the same
rules in different orders (`Draft.Reorders`) have the same bodies under the same names and the same
expressions in them.
-/

set_option autoImplicit false
set_option relaxedAutoImplicit false

namespace Packrat

namespace Draft

/-! ### Rules by name -/

/-- No name occurs twice, nor among earlier ones, just if none is found to. -/
theorem duplicate?_eq_none_iff {names : List String} :
    ∀ {earlier : List String}, duplicate? earlier names = none ↔
      names.Nodup ∧ ∀ name ∈ names, name ∉ earlier := by
  induction names with
  | nil => exact fun {_} ↦ ⟨fun _ ↦ ⟨List.nodup_nil, fun _ hname ↦ nomatch hname⟩, fun _ ↦ rfl⟩
  | cons first rest ih =>
    intro earlier
    by_cases hfirst : first ∈ earlier
    · rw [duplicate?, if_pos hfirst]
      exact ⟨fun hsome ↦ (nomatch hsome), fun hfresh ↦
        absurd hfirst (hfresh.2 first List.mem_cons_self)⟩
    · rw [duplicate?, if_neg hfirst, ih, List.nodup_cons, List.forall_mem_cons]
      simp only [List.mem_cons, not_or]
      constructor
      · rintro ⟨hrest, hfresh⟩
        exact ⟨⟨fun hmem ↦ (hfresh first hmem).1 rfl, hrest⟩, hfirst, fun name hname ↦
          (hfresh name hname).2⟩
      · rintro ⟨⟨hapart, hrest⟩, -, hfresh⟩
        refine ⟨hrest, fun name hname ↦ ⟨?_, hfresh name hname⟩⟩
        rintro rfl
        exact hapart hname

variable {draft other : Draft} {name : String} {body : Expr}

/-- Among different names every rule has the number of its place. -/
theorem idxOf?_ruleNames (hdistinct : draft.ruleNames.Nodup) {rule : Nat}
    (hrule : draft.rules[rule]? = some (name, body)) : draft.ruleNames.idxOf? name = some rule := by
  have hname : draft.ruleNames[rule]? = some name := by
    rw [ruleNames, List.getElem?_map, hrule]
    rfl
  obtain ⟨hinside, hown⟩ := List.getElem?_eq_some_iff.mp hname
  refine List.idxOf?_eq_some_iff.mpr ⟨hinside, hown, fun earlier hearlier hsame ↦ ?_⟩
  exact Nat.ne_of_lt hearlier ((List.Nodup.getElem_inj_iff hdistinct).mp (hsame.trans hown.symm))

/-- Among different names every rule is found by its own. -/
theorem body?_of_getElem? (hdistinct : draft.ruleNames.Nodup) {rule : Nat}
    (hrule : draft.rules[rule]? = some (name, body)) : draft.body? name = some body := by
  rw [body?, idxOf?_ruleNames hdistinct hrule, Option.bind_some, List.getElem?_map, hrule]
  rfl

theorem mem_rules_of_body? (hbody : draft.body? name = some body) : (name, body) ∈ draft.rules := by
  obtain ⟨rule, hrule, hfound⟩ := Option.bind_eq_some_iff.mp hbody
  obtain ⟨hinside, hname, -⟩ := List.idxOf?_eq_some_iff.mp hrule
  rw [List.getElem?_map] at hfound
  obtain ⟨⟨own, same⟩, hpair, rfl⟩ := Option.map_eq_some_iff.mp hfound
  have hown : own = name := by
    rw [← hname]
    simp [ruleNames, (List.getElem?_eq_some_iff.mp hpair).2]
  rw [← hown]
  exact List.mem_of_getElem? hpair

/-- Among different names a body is found under a name just if it is bound to it. -/
theorem body?_eq_some_iff (hdistinct : draft.ruleNames.Nodup) :
    draft.body? name = some body ↔ (name, body) ∈ draft.rules := by
  refine ⟨mem_rules_of_body?, fun hmem ↦ ?_⟩
  obtain ⟨rule, hrule⟩ := List.mem_iff_getElem?.mp hmem
  exact body?_of_getElem? hdistinct hrule

/-- Something is found under the names that are bound, and under no others. -/
theorem isSome_body?_iff : (draft.body? name).isSome = true ↔ name ∈ draft.ruleNames := by
  constructor
  · intro hsome
    obtain ⟨body, hbody⟩ := Option.isSome_iff_exists.mp hsome
    exact List.mem_map_of_mem (mem_rules_of_body? hbody)
  · intro hname
    obtain ⟨rule, hrule⟩ := Option.isSome_iff_exists.mp (List.isSome_idxOf?.mpr hname)
    have hinside : rule < (draft.rules.map Prod.snd).length := by
      simpa [ruleNames] using (List.idxOf?_eq_some_iff.mp hrule).1
    rw [body?, hrule, Option.bind_some, List.getElem?_eq_getElem hinside]
    rfl

/-! ### The same rules -/

/-- All rules of one draft are bound in another one, which has the same configuration. -/
structure Within (draft other : Draft) : Prop where
  /-- Under the names that are bound there are the same bodies. -/
  body? : ∀ name body, draft.body? name = some body → other.body? name = some body
  /-- They have the same configuration. -/
  config : other.config = draft.config

theorem Within.refl (draft : Draft) : draft.Within draft := ⟨fun _ _ hbody ↦ hbody, rfl⟩

/-- Two drafts bind the same rules to the same names, start at the same place and have the same
configuration. -/
structure Reorders (draft other : Draft) : Prop where
  /-- Under every name there is the same body. -/
  body? : ∀ name, other.body? name = draft.body? name
  /-- There are the same bodies. -/
  bodies : ∀ body, body ∈ other.rules.map Prod.snd ↔ body ∈ draft.rules.map Prod.snd
  /-- They start at the same place. -/
  entry : other.entry = draft.entry
  /-- They have the same configuration. -/
  config : other.config = draft.config

namespace Reorders

theorem refl (draft : Draft) : draft.Reorders draft := ⟨fun _ ↦ rfl, fun _ ↦ .rfl, rfl, rfl⟩

variable (hsame : draft.Reorders other)

include hsame

theorem symm : other.Reorders draft :=
  ⟨fun name ↦ (hsame.body? name).symm, fun body ↦ (hsame.bodies body).symm, hsame.entry.symm,
    hsame.config.symm⟩

/-- All rules of one draft are bound in the other. -/
theorem within : draft.Within other :=
  ⟨fun name _ hbody ↦ (hsame.body? name).trans hbody, hsame.config⟩

theorem mem_ruleNames : name ∈ other.ruleNames ↔ name ∈ draft.ruleNames := by
  rw [← isSome_body?_iff, ← isSome_body?_iff, hsame.body?]

theorem reaches {skip : Option CharSet} {expr : Expr} (hreaches : draft.Reaches skip expr) :
    other.Reaches skip expr := by
  induction hreaches with
  | body hbody =>
    rw [← hsame.config]
    exact .body ((hsame.bodies _).mpr hbody)
  | entry hentry =>
    rw [← hsame.config]
    exact .entry (hsame.entry.trans hentry)
  | child _ hchild ih => exact ih.child hchild

theorem covers {skip : Option CharSet} {expr : Expr} (hcovers : draft.Covers skip expr) :
    other.Covers skip expr := by
  cases hcovers with
  | reaches hreaches => exact .reaches (hsame.reaches hreaches)
  | entry hentry hmeans =>
    rw [← hsame.config]
    exact .entry (hsame.entry.trans hentry) hmeans

/-- Identities belong to single expressions in either order. -/
theorem coherent (hcoherent : draft.Coherent) : other.Coherent :=
  fun _ _ _ _ hfirst hsecond ↦ hcoherent (hsame.symm.reaches hfirst) (hsame.symm.reaches hsecond)

/-- The same expressions have nothing wrong with them. -/
theorem sound {expr : Expr} (hsound : expr.Sound draft.ruleNames) : expr.Sound other.ruleNames := by
  refine hsound.imp fun shape hshape ↦ ?_
  cases shape with
  | rule name => exact hsame.mem_ruleNames.mpr hshape
  | _ => exact hshape

end Reorders

/-- Rules with different names may be bound in any order. -/
theorem reorders_of_perm (hdistinct : draft.ruleNames.Nodup) (hrules : other.rules.Perm draft.rules)
    (hentry : other.entry = draft.entry) (hconfig : other.config = draft.config) :
    draft.Reorders other := by
  have hnames : other.ruleNames.Perm draft.ruleNames := hrules.map Prod.fst
  refine ⟨fun name ↦ Option.ext fun body ↦ ?_, fun body ↦ (hrules.map Prod.snd).mem_iff,
    hentry, hconfig⟩
  rw [body?_eq_some_iff (hnames.nodup_iff.mpr hdistinct), body?_eq_some_iff hdistinct,
    hrules.mem_iff]

/-! ### Rules that became nodes -/

/-- The body of a rule became the body of the rule. -/
theorem LowersTo.exists_body {grammar : Grammar} (hlowers : draft.LowersTo grammar) {number : Nat}
    (hnumber : draft.ruleNames.idxOf? name = some number) :
    ∃ body id, draft.body? name = some body ∧ grammar.findRule? name = some id ∧
      grammar.ruleBody number = id ∧
      Expr.CompilesTo grammar.nodes draft.ruleNames draft.config.skip body id := by
  have hinside : number < (draft.rules.map Prod.snd).length := by
    have hlt := (List.idxOf?_eq_some_iff.mp hnumber).1
    simpa [Draft.ruleNames] using hlt
  have hids := hlowers.bodies.length_eq ▸ hinside
  have hbody := hlowers.bodies.get hinside hids
  refine ⟨_, _, ?_, ?_, ?_, hbody⟩
  · rw [Draft.body?, hnumber, Option.bind_some, List.getElem?_eq_getElem hinside]
    rfl
  · rw [Grammar.findRule?, hlowers.ruleNames, hnumber, Option.bind_some,
      List.getElem?_eq_getElem hids]
    rfl
  · rw [Grammar.ruleBody, List.getElem?_eq_getElem hids]
    rfl

end Draft

end Packrat
