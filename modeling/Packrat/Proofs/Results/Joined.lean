import Packrat.Results.Basic
import Packrat.Terminal.Basic

/-!
# The text of results

Results that are joined without a separator are the texts of their tokens, one after the other, and
groups and names make no difference to them (`Results.joined_nil`). So the operations on results put
texts together as they put tokens together: one lemma for each of them.
-/

set_option autoImplicit false
set_option relaxedAutoImplicit false

namespace Packrat

/-- Lists around nothing are one after the other. -/
theorem intercalate_nil {α : Type} (lists : List (List α)) :
    [].intercalate lists = lists.flatten := by
  induction lists with
  | nil => rfl
  | cons first rest ih =>
    cases rest with
    | nil => simp [List.intercalate]
    | cons second rest =>
      rw [List.intercalate] at ih ⊢
      rw [List.intersperse_cons_cons, List.flatten_cons, List.flatten_cons, ih]
      rfl

mutual

theorem Token.flatten_text_scalars : ∀ token : Token,
    (token.scalars.map Token.text).flatten = token.text
  | .group tokens names => by
    rw [Token.scalars, Token.text]
    exact Token.flatten_text_scalarsOf tokens
  | .str content => by simp [Token.scalars]
  | .int number => by simp [Token.scalars]
  | .float number => by simp [Token.scalars]
  | .bool truth => by simp [Token.scalars]

/-- The text of tokens is that of their scalars. -/
theorem Token.flatten_text_scalarsOf : ∀ tokens : List Token,
    ((Token.scalarsOf tokens).map Token.text).flatten = Token.textOf tokens
  | [] => by
    rw [Token.scalarsOf, Token.textOf]
    rfl
  | token :: rest => by
    rw [Token.scalarsOf, Token.textOf, List.map_append, List.flatten_append,
      Token.flatten_text_scalars token, Token.flatten_text_scalarsOf rest]

end

/-- The text of tokens after others follows theirs. -/
theorem Token.textOf_append (first second : List Token) :
    textOf (first ++ second) = textOf first ++ textOf second := by
  induction first with
  | nil => simp [textOf]
  | cons token rest ih => rw [List.cons_append, textOf, textOf, ih, List.append_assoc]

@[simp] theorem Terminal.text_stringToken (chars : List Char) :
    (stringToken chars).text = chars := by
  simp [stringToken, Token.text]

namespace Results

/-- Results that are joined without a separator are the text of their tokens. -/
theorem joined_nil (results : Results) : results.joined [] = Token.textOf results.tokens := by
  rw [joined, intercalate_nil, flatten, Token.flatten_text_scalarsOf]

@[simp] theorem joined_empty : empty.joined [] = [] := by
  rw [joined_nil, empty, Token.textOf]

@[simp] theorem joined_ofToken (token : Token) : (ofToken token).joined [] = token.text := by
  simp [joined_nil, ofToken, ofTokens, Token.textOf]

@[simp] theorem text_toGroup (results : Results) : results.toGroup.text = results.joined [] := by
  rw [joined_nil, toGroup, Token.text]

@[simp] theorem joined_setName (results : Results) (name : String) (accumulate : Bool) :
    (results.setName name accumulate).joined [] = results.joined [] := by
  unfold setName
  split
  · rfl
  · simp only [joined_nil]

/-- The text of results after others follows theirs. -/
@[simp] theorem joined_extend (results other : Results) :
    (results.extend other).joined [] = results.joined [] ++ other.joined [] := by
  simp only [joined_nil, extend, Token.textOf_append]

end Results

end Packrat
