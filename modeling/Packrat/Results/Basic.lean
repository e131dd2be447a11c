import Packrat.Results.Token

/-!
# Results

`Results` is what every match produces: tokens in order, and names over ranges of them. A plain name
keeps the last range recorded under it; a list name collects all of them. Naming an empty result
records nothing, and names inside a group stay inside it.
-/

set_option autoImplicit false
set_option relaxedAutoImplicit false

namespace Packrat

/-- Tokens in order, and named views of them. -/
structure Results where
  /-- The tokens. -/
  tokens : List Token
  /-- The names, in the order in which they were first recorded. -/
  names : List Slot

namespace Results

def empty : Results := ⟨[], []⟩

instance : Inhabited Results := ⟨empty⟩

/-- Results of the given tokens, without names. -/
def ofTokens (tokens : List Token) : Results := ⟨tokens, []⟩

def ofToken (token : Token) : Results := ofTokens [token]

def toGroup (results : Results) : Token := .group results.tokens results.names

def ofGroup? : Token → Option Results
  | .group tokens names => some ⟨tokens, names⟩
  | _ => none

def push (results : Results) (token : Token) : Results :=
  { results with tokens := results.tokens ++ [token] }

/-- Records ranges under a name: a new name is added at the end, a plain name takes the new ranges
in place of its own, and a list name gains them. One list name makes the merged name a list name. -/
def mergeSlot (slot : Slot) : List Slot → List Slot
  | [] => [slot]
  | held :: rest =>
    if held.name = slot.name then
      (if held.accumulate || slot.accumulate then
        { held with accumulate := true, spans := held.spans ++ slot.spans }
      else { held with spans := slot.spans }) :: rest
    else held :: mergeSlot slot rest

def shiftSlot (distance : Nat) (slot : Slot) : Slot :=
  { slot with spans := slot.spans.map (·.shift distance) }

def extend (results other : Results) : Results :=
  { tokens := results.tokens ++ other.tokens
    names := (other.names.map (shiftSlot results.tokens.length)).foldl
      (fun names slot ↦ mergeSlot slot names) results.names }

/-- Names the whole of the results. A name of the same spelling from inside the match is replaced,
and empty results stay unnamed. -/
def setName (results : Results) (name : String) (accumulate : Bool) : Results :=
  if results.tokens.isEmpty then results
  else
    { results with
      names := results.names.filter (·.name ≠ name) ++
        [⟨name, [⟨0, results.tokens.length⟩], accumulate⟩] }

def clearNames (results : Results) : Results := { results with names := [] }

def slot? (results : Results) (name : String) : Option Slot :=
  results.names.find? (·.name = name)

/-- Whether a name is recorded at this level. -/
def containsName (results : Results) (name : String) : Bool :=
  results.names.any (·.name = name)

/-- The tokens of a range; none when the range does not fit. -/
def tokensOf (results : Results) (span : Span) : List Token :=
  (span.slice? results.tokens).getD []

/-- The value of a range: that of its token if it has one, a list otherwise. -/
def spanValue (results : Results) (span : Span) : Value :=
  match results.tokensOf span with
  | [token] => token.toValue
  | tokens => .list (Token.toValues tokens)

/-- The value of a name: that of the last range, or the list of all of them for a list name. -/
def get? (results : Results) (name : String) : Option Value :=
  (results.slot? name).bind fun slot ↦
    if slot.accumulate then some (.list (slot.spans.map results.spanValue))
    else slot.spans.getLast?.map results.spanValue

/-- The first token of the last range recorded under a name. -/
def token? (results : Results) (name : String) : Option Token :=
  (results.slot? name).bind fun slot ↦
    slot.spans.getLast?.bind fun span ↦ results.tokens[span.start]?

/-- The tokens of the last range recorded under a name as results of their own; those of a single
group are the group's, with its names. -/
def results? (results : Results) (name : String) : Option Results :=
  (results.slot? name).bind fun slot ↦
    slot.spans.getLast?.bind fun span ↦
      (span.slice? results.tokens).map fun tokens ↦
        match tokens with
        | [.group inner names] => ⟨inner, names⟩
        | _ => ofTokens tokens

def toValues (results : Results) : List Value := Token.toValues results.tokens

/-- The scalar tokens in order, descending into groups. -/
def flatten (results : Results) : List Token := Token.scalarsOf results.tokens

/-- The texts of the scalar tokens with a separator between them. -/
def joined (results : Results) (separator : List Char) : List Char :=
  separator.intercalate (results.flatten.map Token.text)

/-- Equality of results; floats are compared as numbers. -/
def same (first second : Results) : Bool :=
  Token.sameAll first.tokens second.tokens && first.names == second.names

instance : BEq Results := ⟨same⟩

def render (results : Results) : String := (Value.list results.toValues).render

/-! ### Names as a dictionary -/

mutual

/-- The value of a token in a dictionary: a group with names becomes a dictionary of its own. -/
def dictValue : Token → Value
  | .group tokens names =>
    if names.isEmpty then .list (Token.toValues tokens)
    else .dict (dictOfNames tokens (dictValues tokens) names)
  | token => token.toValue

/-- The dictionary values of tokens in order. -/
def dictValues : List Token → List Value
  | [] => []
  | token :: rest => dictValue token :: dictValues rest

/-- The entries of names over tokens whose values in a dictionary are given. -/
def dictOfNames (tokens : List Token) (values : List Value) (names : List Slot) :
    List (String × Value) :=
  let spanValue (span : Span) : Value :=
    match (span.slice? values).getD [] with
    | [value] => value
    | _ => .list (Token.toValues ((span.slice? tokens).getD []))
  Value.dictOf (names.filterMap fun slot ↦
    if slot.accumulate then some (slot.name, .list (slot.spans.map spanValue))
    else slot.spans.getLast?.map fun span ↦ (slot.name, spanValue span))

end

/-- The names as a dictionary; named groups that carry names become dictionaries too. -/
def toDict (results : Results) : List (String × Value) :=
  dictOfNames results.tokens (dictValues results.tokens) results.names

end Results

end Packrat
