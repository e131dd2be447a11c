import Mathlib.Data.List.Dedup
import Mathlib.Data.List.Infix
import Mathlib.Logic.Function.Iterate
import Packrat.Proofs.Text.Places

/-!
# The longest of several strings

Options are arranged so that none of them hides a later one: the form in which an option is compared
is no initial part of that of a later one (`Options.pairwise_arrange`). Arranging goes from turn to
turn, each of which places the next option, drops one that is repeated or moves one ahead, and comes
to an end (`Options.exists_turns`). It keeps an option of every form (`Options.exists_mem_arrange`).

The option that is found takes as much of every text as any of them does just if each of them is
taken whole where it stands alone (`Options.findsLongest_iff_takenWhole`). Options are arranged by
the lower case of whole strings, but they match by the lower cases of their characters
(`exists_stringPrefix_iff`). Where the two agree, options are taken whole
(`Options.Agree.takenWhole`). They always agree when case matters, and otherwise if no option has a
capital sigma or a capital i with a dot (`Options.agree_of_ordinary`).
-/

set_option autoImplicit false
set_option relaxedAutoImplicit false

namespace Packrat

/-! ### How strings match -/

/-- What is compared when a string matches: the lower cases of its characters, or the characters
themselves. -/
def folded (caseless : Bool) (chars : List Char) : List (List Char) :=
  chars.map fun c ↦ if caseless then lowerChar c else [c]

variable {caseless : Bool} {expected chars taken first second : List Char}

@[simp] theorem length_folded (caseless : Bool) (chars : List Char) :
    (folded caseless chars).length = chars.length := List.length_map _

theorem folded_false_isPrefix_iff :
    folded false first <+: folded false second ↔ first <+: second := by
  simp only [folded, Bool.false_eq_true, if_false]
  exact List.prefix_map_iff_of_injective List.singleton_injective

/-- A string in any case takes the characters that have the same lower cases as its own. -/
theorem caselessPrefix_eq_some_iff :
    caselessPrefix expected chars = some taken ↔ taken <+: chars ∧
      folded true taken = folded true expected := by
  induction expected generalizing chars taken with
  | nil =>
    simp only [caselessPrefix, folded, List.map_nil, List.map_eq_nil_iff, Option.some.injEq]
    exact ⟨fun hnone ↦ ⟨hnone ▸ List.nil_prefix, hnone.symm⟩, fun hnone ↦ hnone.2.symm⟩
  | cons c more ih =>
    cases chars with
    | nil =>
      have hnone : ¬ (taken <+: [] ∧ folded true taken = folded true (c :: more)) := by
        rintro ⟨hinitial, hsame⟩
        rw [List.prefix_nil.mp hinitial] at hsame
        cases hsame
      simpa only [caselessPrefix, reduceCtorEq, false_iff] using hnone
    | cons other rest =>
      have hcases : other = c ∨ lowerChar other = lowerChar c ↔ lowerChar other = lowerChar c :=
        or_iff_right_of_imp (congrArg lowerChar)
      have hsplit : taken <+: other :: rest ∧ folded true taken = folded true (c :: more) ↔
          lowerChar other = lowerChar c ∧
            ∃ others, (others <+: rest ∧ folded true others = folded true more) ∧
            other :: others = taken := by
        constructor
        · rintro ⟨hinitial, hsame⟩
          cases taken with
          | nil => cases hsame
          | cons next others =>
            obtain ⟨rfl, hothers⟩ := List.cons_prefix_cons.mp hinitial
            obtain ⟨hfirst, hmore⟩ := List.cons.inj hsame
            exact ⟨hfirst, others, ⟨hothers, hmore⟩, rfl⟩
        · rintro ⟨hfirst, others, ⟨hothers, hmore⟩, rfl⟩
          exact ⟨List.cons_prefix_cons.mpr ⟨rfl, hothers⟩, congrArg₂ List.cons hfirst hmore⟩
      rw [hsplit, caselessPrefix]
      simp only [hcases]
      split_ifs with hfirst
      · simp only [Option.map_eq_some_iff, ih, hfirst, true_and]
      · exact iff_of_false nofun fun hboth ↦ hfirst hboth.1

theorem stringPrefix_false_eq_some_iff :
    stringPrefix false expected chars = some taken ↔ taken = expected ∧ expected <+: chars := by
  rw [stringPrefix, if_neg Bool.false_ne_true]
  simp only [List.isPrefixOf_iff_prefix]
  split_ifs with hinitial
  · rw [Option.some.injEq]
    exact ⟨fun hsame ↦ ⟨hsame.symm, hinitial⟩, fun hboth ↦ hboth.1.symm⟩
  · exact iff_of_false nofun fun hboth ↦ hinitial hboth.2

/-- A string takes the characters that compare as its own. -/
theorem stringPrefix_eq_some_iff :
    stringPrefix caseless expected chars = some taken ↔
      taken <+: chars ∧ folded caseless taken = folded caseless expected := by
  cases caseless with
  | true => exact caselessPrefix_eq_some_iff
  | false =>
    have hsame : folded false taken = folded false expected ↔ taken = expected := by
      simp only [folded, Bool.false_eq_true, if_false]
      exact (List.map_injective_iff.mpr List.singleton_injective).eq_iff
    rw [stringPrefix_false_eq_some_iff, hsame, and_comm, and_congr_left_iff]
    rintro rfl
    rfl

/-- A string matches a text that it compares with as an initial part. -/
theorem exists_stringPrefix_iff :
    (∃ taken, stringPrefix caseless expected chars = some taken) ↔
      folded caseless expected <+: folded caseless chars := by
  simp only [stringPrefix_eq_some_iff]
  constructor
  · rintro ⟨taken, hinitial, hsame⟩
    exact hsame ▸ hinitial.map _
  · rintro ⟨more, hsplit⟩
    obtain ⟨taken, rest, rfl, hsame, -⟩ := List.map_eq_append_iff.mp hsplit.symm
    exact ⟨taken, List.prefix_append taken rest, hsame⟩

/-- An initial part that has no fewer bytes is the whole. -/
theorem eq_of_isPrefix_of_byteLength_le (hinitial : first <+: second)
    (hle : byteLength second ≤ byteLength first) :
    first = second := by
  obtain ⟨more, rfl⟩ := hinitial
  have hnone : byteLength more = 0 := by
    rw [byteLength_append] at hle
    omega
  rw [eq_nil_of_byteLength_eq_zero hnone, List.append_nil]

/-- Initial parts of one text that have as many bytes are the same. -/
theorem eq_of_byteLength_eq (hfirst : first <+: chars) (hsecond : second <+: chars)
    (hsame : byteLength first = byteLength second) : first = second := by
  rcases List.prefix_or_prefix_of_prefix hfirst hsecond with hinitial | hinitial
  · exact eq_of_isPrefix_of_byteLength_le hinitial hsame.ge
  · exact (eq_of_isPrefix_of_byteLength_le hinitial hsame.le).symm

/-- Initial parts of one text that compare alike are the same. -/
theorem eq_of_folded_eq (hfirst : first <+: chars) (hsecond : second <+: chars)
    (hsame : folded caseless first = folded caseless second) : first = second := by
  have hlength := congrArg List.length hsame
  rw [length_folded, length_folded] at hlength
  exact (List.prefix_of_prefix_length_le hfirst hsecond hlength.le).eq_of_length hlength

namespace Options

/-! ### Turns -/

variable {options placed : List (List Char)} {option : List Char}

/-- One turn of the arrangement when some options have found their place. The next option is
compared with those after it: it is placed if it hides none of them, and otherwise the first one
that it hides is dropped or moved ahead of it. -/
def turn (caseless : Bool) : List (List Char) × List (List Char) →
    List (List Char) × List (List Char)
  | (placed, []) => (placed, [])
  | (placed, head :: rest) =>
    match pull? (fun option ↦ (key caseless head).isPrefixOf (key caseless option)) rest with
    | none => (placed ++ [head], rest)
    | some (found, others) =>
      if key caseless found = key caseless head then (placed, head :: others)
      else (placed, found :: head :: others)

/-- Turn after turn all options find their place. -/
theorem exists_turns (caseless : Bool) (placed options : List (List Char)) :
    ∃ count, (turn caseless)^[count] (placed, options) =
      (placed ++ arrange caseless options, []) := by
  fun_induction arrange caseless options generalizing placed with
  | case1 => exact ⟨0, by rw [List.append_nil]; rfl⟩
  | case2 head rest pulled ih =>
    obtain ⟨count, hcount⟩ := ih (placed ++ [head])
    refine ⟨count + 1, ?_⟩
    rw [Function.iterate_succ_apply, turn, pulled]
    simpa using hcount
  | case3 head rest found others pulled same ih =>
    obtain ⟨count, hcount⟩ := ih placed
    refine ⟨count + 1, ?_⟩
    rw [Function.iterate_succ_apply, turn, pulled]
    simpa [same] using hcount
  | case4 head rest found others pulled differs ih =>
    obtain ⟨count, hcount⟩ := ih placed
    refine ⟨count + 1, ?_⟩
    rw [Function.iterate_succ_apply, turn, pulled]
    simpa [differs] using hcount

/-- The arrangement is what turns come to, however many they are. -/
theorem arrange_eq_of_turns (count : Nat) (hturns : (turn caseless)^[count] ([], options) =
      (placed, [])) :
    arrange caseless options = placed := by
  obtain ⟨other, hother⟩ := exists_turns caseless [] options
  have hstays (count : Nat) (placed : List (List Char)) :
      (turn caseless)^[count] (placed, []) = (placed, []) :=
    Function.iterate_fixed rfl count
  have hforth := Function.iterate_add_apply (turn caseless) count other ([], options)
  have hback := Function.iterate_add_apply (turn caseless) other count ([], options)
  rw [hother, hstays] at hforth
  rw [hturns, hstays, Nat.add_comm, hforth] at hback
  exact (Prod.mk.inj hback).1

/-! ### What the arrangement keeps -/

/-- An element that is not pulled out does not satisfy the test. -/
theorem pull?_eq_none {α : Type} {test : α → Bool} {elements : List α}
    (hnone : pull? test elements = none) :
    ∀ element ∈ elements, ¬ test element = true := by
  induction elements with
  | nil => exact fun _ hmem ↦ absurd hmem List.not_mem_nil
  | cons first rest ih =>
    unfold pull? at hnone
    split at hnone
    next => cases hnone
    next hfirst =>
      intro element hmem
      rcases List.mem_cons.mp hmem with rfl | hlater
      · exact hfirst
      · exact ih (Option.map_eq_none_iff.mp hnone) element hlater

theorem mem_of_mem_pull? {α : Type} {test : α → Bool} {elements others : List α} {found element : α}
    (hpulled : pull? test elements = some (found, others)) (hmem : element ∈ elements) :
    element = found ∨ element ∈ others := by
  induction elements generalizing others with
  | nil => exact absurd hmem List.not_mem_nil
  | cons first rest ih =>
    unfold pull? at hpulled
    split at hpulled
    next =>
      obtain ⟨rfl, rfl⟩ := Prod.mk.inj (Option.some.inj hpulled)
      exact List.mem_cons.mp hmem
    next =>
      obtain ⟨pair, hinner, hsame⟩ := Option.map_eq_some_iff.mp hpulled
      obtain ⟨rfl, rfl⟩ := Prod.mk.inj hsame
      rcases List.mem_cons.mp hmem with rfl | hlater
      · exact Or.inr List.mem_cons_self
      · exact (ih hinner hlater).imp_right (List.mem_cons_of_mem _)

theorem pairwise_arrange (caseless : Bool) (options : List (List Char)) :
    (arrange caseless options).Pairwise fun first second ↦
      ¬ key caseless first <+: key caseless second := by
  fun_induction arrange caseless options with
  | case1 => exact List.Pairwise.nil
  | case2 head rest pulled ih =>
    refine List.Pairwise.cons (fun later hlater hhidden ↦ ?_) ih
    exact pull?_eq_none pulled later (mem_of_mem_arrange hlater)
      (List.isPrefixOf_iff_prefix.mpr hhidden)
  | case3 head rest found others pulled same ih => exact ih
  | case4 head rest found others pulled differs ih => exact ih

/-- For every option one of the same form is kept. -/
theorem exists_mem_arrange (caseless : Bool) (hoption : option ∈ options) :
    ∃ kept ∈ arrange caseless options, key caseless kept = key caseless option := by
  fun_induction arrange caseless options generalizing option with
  | case1 => exact absurd hoption List.not_mem_nil
  | case2 head rest pulled ih =>
    rcases List.mem_cons.mp hoption with rfl | hlater
    · exact ⟨option, List.mem_cons_self, rfl⟩
    · obtain ⟨kept, hkept, hsame⟩ := ih hlater
      exact ⟨kept, List.mem_cons_of_mem _ hkept, hsame⟩
  | case3 head rest found others pulled same ih =>
    rcases List.mem_cons.mp hoption with rfl | hlater
    · exact ih List.mem_cons_self
    · rcases mem_of_mem_pull? pulled hlater with rfl | hother
      · obtain ⟨kept, hkept, hhead⟩ := ih List.mem_cons_self
        exact ⟨kept, hkept, hhead.trans same.symm⟩
      · exact ih (List.mem_cons_of_mem _ hother)
  | case4 head rest found others pulled differs ih =>
    rcases List.mem_cons.mp hoption with rfl | hlater
    · exact ih (List.mem_cons_of_mem _ List.mem_cons_self)
    · rcases mem_of_mem_pull? pulled hlater with rfl | hother
      · exact ih List.mem_cons_self
      · exact ih (List.mem_cons_of_mem _ (List.mem_cons_of_mem _ hother))

/-! ### Forms that agree -/

/-- Options are compared by forms that tell what matching tells: which of them match whatever others
match. -/
def Agree (caseless : Bool) (options : List (List Char)) : Prop :=
  ∀ first ∈ options, ∀ second ∈ options,
    key caseless first <+: key caseless second ↔ folded caseless first <+: folded caseless second

theorem agree_false (options : List (List Char)) : Agree false options :=
  fun _ _ _ _ ↦ folded_false_isPrefix_iff.symm

/-- Every character but a capital i with a dot has one character as its lower case. -/
theorem exists_lowerChar {c : Char} (hdot : c ≠ '\u0130') : ∃ lower, lowerChar c = [lower] := by
  unfold lowerChar
  split_ifs
  · exact ⟨_, rfl⟩
  · exact ⟨_, rfl⟩

/-- Without a capital sigma and a capital i with a dot, the lower case of a text is made of those of
its characters. -/
theorem folded_eq_map_lowerFrom (hordinary : ∀ c ∈ chars, c ≠ '\u0130' ∧ c ≠ '\u03A3')
    (passed : List Char) :
    folded true chars = (lowerFrom passed chars).map fun c ↦ [c] := by
  induction chars generalizing passed with
  | nil => rfl
  | cons c rest ih =>
    obtain ⟨hdot, hsigma⟩ := hordinary c List.mem_cons_self
    obtain ⟨lower, hlower⟩ := exists_lowerChar hdot
    have himage : ¬ (c = '\u03A3' ∧ startsCased passed = true ∧ ¬ startsCased rest = true) :=
      fun hfinal ↦ hsigma hfinal.1
    have hrest := ih (fun other hother ↦ hordinary other (List.mem_cons_of_mem c hother))
      (c :: passed)
    simp only [lowerFrom, if_neg himage, hlower, List.singleton_append, List.map_cons, ← hrest]
    simp only [folded, List.map_cons, if_true, hlower]

/-- The forms of options without a capital sigma and a capital i with a dot agree. -/
theorem agree_of_ordinary (hordinary : ∀ option ∈ options, ∀ c ∈ option, c ≠ '\u0130' ∧
      c ≠ '\u03A3') :
    Agree true options := by
  intro first hfirst second hsecond
  rw [folded_eq_map_lowerFrom (hordinary first hfirst) [],
    folded_eq_map_lowerFrom (hordinary second hsecond) []]
  exact (List.prefix_map_iff_of_injective List.singleton_injective).symm

/-! ### The longest option -/

/-- One of the given options that takes the most of a text, and what it takes. -/
structure Longest (caseless : Bool) (options : List (List Char)) (chars option taken : List Char) :
    Prop where
  /-- It is among the options. -/
  mem : option ∈ options
  /-- It is not empty. -/
  ne_nil : option ≠ []
  /-- It matches. -/
  takes : stringPrefix caseless option chars = some taken
  /-- No other one takes more. -/
  le : ∀ other ∈ options, other ≠ [] → ∀ found, stringPrefix caseless other chars = some found →
    byteLength found ≤ byteLength taken

/-- What is found at the head of a text when the options are tried: some of its first characters,
and a token. -/
def find (caseless : Bool) (options : List (List Char)) (chars : List Char) :
    Option (List Char × Token) :=
  Terminal.firstOption (ofList caseless options) caseless chars

/-- What is found at the head of a text is what a longest option takes, and nothing just if none of
them matches. -/
def FindsLongest (caseless : Bool) (options : List (List Char)) (chars : List Char) : Prop :=
  match find caseless options chars with
  | none => ∀ option ∈ options, option ≠ [] → stringPrefix caseless option chars = none
  | some found => ∃ option, Longest caseless options chars option found.1 ∧
      found.2 = Terminal.stringToken option

/-- Every option is taken whole where it stands alone. -/
def TakenWhole (caseless : Bool) (options : List (List Char)) : Prop :=
  ∀ option ∈ options, option ≠ [] → (find caseless options option).map Prod.fst = some option

/-- The options that are tried are among those that were given, and not empty. -/
theorem mem_of_mem_ofList (caseless : Bool) (hoption : option ∈ (ofList caseless options).list) :
    option ∈ options ∧ option ≠ [] :=
  ⟨(List.mem_filter.mp (mem_of_mem_arrange hoption)).1,
    (ofList caseless options).nonempty option hoption⟩

/-- When case matters the options that are tried are the given ones without repetitions, but for the
empty one. -/
theorem perm_ofList (options : List (List Char)) :
    (ofList false options).list.Perm (options.filter fun option ↦ !option.isEmpty).dedup := by
  have hnodup : (ofList false options).list.Nodup := by
    refine (pairwise_arrange false _).imp ?_
    rintro first second hapart rfl
    exact hapart (List.prefix_refl _)
  refine (List.perm_ext_iff_of_nodup hnodup (List.nodup_dedup _)).mpr fun option ↦ ?_
  rw [List.mem_dedup]
  refine ⟨mem_of_mem_arrange, fun hoption ↦ ?_⟩
  obtain ⟨kept, hkept, hsame⟩ := exists_mem_arrange false hoption
  obtain rfl : kept = option := hsame
  exact hkept

/-- Nothing is found where none of the options that are tried matches. -/
theorem find_eq_none_iff :
    find caseless options chars = none ↔
      ∀ option ∈ (ofList caseless options).list, stringPrefix caseless option chars = none := by
  simp only [find, Terminal.firstOption, List.findSome?_eq_none_iff, Option.map_eq_none_iff]

/-- What is found is what the first option takes that matches. -/
theorem exists_of_find {found : List Char × Token}
    (hfound : find caseless options chars = some found) :
    ∃ earlier option later, (ofList caseless options).list = earlier ++ option :: later ∧
      stringPrefix caseless option chars = some found.1 ∧ found.2 = Terminal.stringToken option ∧
      ∀ other ∈ earlier, stringPrefix caseless other chars = none := by
  obtain ⟨earlier, option, later, hlist, htakes, hearlier⟩ := List.findSome?_eq_some_iff.mp hfound
  obtain ⟨taken, htaken, rfl⟩ := Option.map_eq_some_iff.mp htakes
  exact ⟨earlier, option, later, hlist, htaken, rfl,
    fun other hother ↦ Option.map_eq_none_iff.mp (hearlier other hother)⟩

/-- Two members of a list are the same if neither of them stands before the other. -/
theorem eq_of_splits {α : Type} {earlier later before after : List α} {first second : α}
    (hsplit : earlier ++ first :: later = before ++ second :: after) (hfirst : first ∉ before)
    (hsecond : second ∉ earlier) : first = second := by
  rcases List.append_eq_append_iff.mp hsplit with ⟨between, rfl, hrest⟩ | ⟨between, rfl, hrest⟩
  · cases between with
    | nil => exact (List.cons.inj hrest).1
    | cons next others =>
      obtain ⟨rfl, -⟩ := List.cons.inj hrest
      exact absurd (List.mem_append_right _ List.mem_cons_self) hfirst
  · cases between with
    | nil => exact (List.cons.inj hrest).1.symm
    | cons next others =>
      obtain ⟨rfl, -⟩ := List.cons.inj hrest
      exact absurd (List.mem_append_right _ List.mem_cons_self) hsecond

/-- An option that is taken whole where it stands alone is tried, or another one that compares
alike. -/
theorem TakenWhole.exists_tried (hwhole : TakenWhole caseless options) (hoption : option ∈ options)
    (hnonempty : option ≠ []) :
    ∃ earlier tried later, (ofList caseless options).list = earlier ++ tried :: later ∧
      folded caseless tried = folded caseless option ∧
      ∀ other ∈ earlier, ¬ folded caseless other <+: folded caseless option := by
  obtain ⟨⟨taken, token⟩, hfound, rfl⟩ :=
    Option.map_eq_some_iff.mp (hwhole option hoption hnonempty)
  obtain ⟨earlier, tried, later, hlist, htakes, -, hearlier⟩ := exists_of_find hfound
  refine ⟨earlier, tried, later, hlist, (stringPrefix_eq_some_iff.mp htakes).2.symm,
    fun other hother hmatches ↦ ?_⟩
  obtain ⟨found, htaken⟩ := exists_stringPrefix_iff.mpr hmatches
  rw [hearlier other hother] at htaken
  cases htaken

/-- The option that is found takes as much of every text as any of the options just if each of them
is taken whole where it stands alone. -/
theorem findsLongest_iff_takenWhole :
    (∀ chars, FindsLongest caseless options chars) ↔ TakenWhole caseless options := by
  constructor
  · intro hlongest option hoption hnonempty
    have hself : stringPrefix caseless option option = some option :=
      stringPrefix_eq_some_iff.mpr ⟨List.prefix_refl option, rfl⟩
    have hfinds := hlongest option
    unfold FindsLongest at hfinds
    split at hfinds
    next hnone =>
      rw [hfinds option hoption hnonempty] at hself
      cases hself
    next found hfound =>
      obtain ⟨best, hbest, -⟩ := hfinds
      have hall := eq_of_isPrefix_of_byteLength_le (stringPrefix_eq_some_iff.mp hbest.takes).1
        (hbest.le option hoption hnonempty option hself)
      rw [hfound, Option.map_some, hall]
  · intro hwhole chars
    unfold FindsLongest
    split
    next hnone =>
      intro option hoption hnonempty
      rw [find_eq_none_iff] at hnone
      obtain ⟨earlier, tried, later, hlist, hsame, -⟩ := hwhole.exists_tried hoption hnonempty
      have htried := hnone tried (hlist ▸ List.mem_append_right _ List.mem_cons_self)
      rw [Option.eq_none_iff_forall_ne_some] at htried ⊢
      exact fun taken htaken ↦ htried taken
        (by rwa [stringPrefix_eq_some_iff, hsame, ← stringPrefix_eq_some_iff])
    next found hfound =>
      obtain ⟨earlier, first, later, hlist, htakes, htoken, hearlier⟩ := exists_of_find hfound
      have hgiven : first ∈ options ∧ first ≠ [] :=
        mem_of_mem_ofList caseless (hlist ▸ List.mem_append_right _ List.mem_cons_self)
      refine ⟨first, ⟨hgiven.1, hgiven.2, htakes, fun other hother hnonempty taken htaken ↦ ?_⟩,
        htoken⟩
      obtain ⟨hinitial, hcompares⟩ := stringPrefix_eq_some_iff.mp htakes
      obtain ⟨hlong, hlonger⟩ := stringPrefix_eq_some_iff.mp htaken
      rcases List.prefix_or_prefix_of_prefix hlong hinitial with hle | hge
      · exact byteLength_le_of_prefix hle
      -- The first option that matches the text matches the longer option too, and so it is the
      -- first one that does.
      obtain ⟨before, tried, after, hsplit, hsame, hbefore⟩ := hwhole.exists_tried hother hnonempty
      have hfirst : first ∉ before := fun hmem ↦ by
        refine hbefore first hmem ?_
        rw [← hcompares, ← hlonger]
        exact hge.map _
      have htried : tried ∉ earlier := fun hmem ↦ by
        have hmatches := stringPrefix_eq_some_iff.mpr ⟨hlong, hlonger.trans hsame.symm⟩
        rw [hearlier tried hmem] at hmatches
        cases hmatches
      obtain rfl := eq_of_splits (hlist.symm.trans hsplit) hfirst htried
      rw [eq_of_folded_eq hlong hinitial (hlonger.trans (hsame.symm.trans hcompares.symm))]

/-- For every option whose form agrees with the others one is tried that compares alike. -/
theorem Agree.exists_tried (hagree : Agree caseless options) (hoption : option ∈ options)
    (hnonempty : option ≠ []) :
    ∃ tried ∈ (ofList caseless options).list, folded caseless tried = folded caseless option := by
  have hkept : option ∈ options.filter fun option ↦ !option.isEmpty :=
    List.mem_filter.mpr ⟨hoption, by simpa using hnonempty⟩
  obtain ⟨tried, htried, hform⟩ := exists_mem_arrange caseless hkept
  have hgiven := (mem_of_mem_ofList caseless htried).1
  have hforth := (hagree tried hgiven option hoption).mp (hform ▸ List.prefix_refl _)
  have hback := (hagree option hoption tried hgiven).mp (hform ▸ List.prefix_refl _)
  exact ⟨tried, htried, hforth.eq_of_length (Nat.le_antisymm hforth.length_le hback.length_le)⟩

/-- Options whose forms agree are taken whole. An option that takes only a part of another one would
hide it. -/
theorem Agree.takenWhole (hagree : Agree caseless options) : TakenWhole caseless options := by
  intro option hoption hnonempty
  obtain ⟨tried, htried, hsame⟩ := hagree.exists_tried hoption hnonempty
  have hmatches := stringPrefix_eq_some_iff.mpr ⟨List.prefix_refl option, hsame.symm⟩
  cases hfound : find caseless options option with
  | none =>
    rw [find_eq_none_iff.mp hfound tried htried] at hmatches
    cases hmatches
  | some found =>
    obtain ⟨earlier, first, later, hlist, htakes, -, hearlier⟩ := exists_of_find hfound
    have hfirst :=
      (mem_of_mem_ofList caseless (hlist ▸ List.mem_append_right _ List.mem_cons_self)).1
    have hgiven := (mem_of_mem_ofList caseless htried).1
    have hapart : (ofList caseless options).list.Pairwise _ := pairwise_arrange caseless _
    rw [hlist] at htried hapart
    rcases List.mem_append.mp htried with hbefore | hafter
    · rw [hearlier tried hbefore] at hmatches
      cases hmatches
    · rcases List.mem_cons.mp hafter with rfl | hbehind
      · exact htakes.symm.trans hmatches
      · obtain ⟨hinitial, hcompares⟩ := stringPrefix_eq_some_iff.mp htakes
        have hmasks : folded caseless first <+: folded caseless tried := by
          rw [← hcompares, hsame]
          exact hinitial.map _
        exact absurd ((hagree first hfirst tried hgiven).mpr hmasks)
          ((List.pairwise_cons.mp (List.pairwise_append.mp hapart).2.1).1 tried hbehind)

end Options

end Packrat
