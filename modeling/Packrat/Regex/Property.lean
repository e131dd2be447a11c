import Packrat.Regex.Category
import Packrat.Regex.Folding
import Packrat.Regex.ScriptTable
import Packrat.Text.LowercaseTable

/-!
# Classes by name

A pattern can name a class by a property, a general category or a script. Names are compared without
regard to case, separators and a leading `is`. `CharClass.named?` finds the class of a name alone,
and `CharClass.valued?` the one of the name and the value of a property.
-/

set_option autoImplicit false
set_option relaxedAutoImplicit false

namespace Packrat

/-- A name of a class without regard to case, separators and a leading `is`. The name `isc` keeps
its `is`, because it names a property of its own. -/
def bareName (name : List Char) : String :=
  let (marked, body) :=
    match name with
    | 'i' :: 's' :: rest | 'I' :: 's' :: rest | 'i' :: 'S' :: rest | 'I' :: 'S' :: rest =>
      (true, rest)
    | _ => (false, name)
  let letters := (body.filter fun c ↦ c.toNat < 128 && c != ' ' && c != '_' && c != '-').map
    Char.toLower
  if marked && letters == ['c'] then "isc" else String.ofList letters

/-- The general categories with a name. Some names stand for several of them. -/
def categoriesNamed? (name : String) : Option (List GeneralCategory) :=
  match name with
  | "lu" | "uppercaseletter" => some [.lu]
  | "ll" | "lowercaseletter" => some [.ll]
  | "lt" | "titlecaseletter" => some [.lt]
  | "lc" | "casedletter" => some [.lu, .ll, .lt]
  | "lm" | "modifierletter" => some [.lm]
  | "lo" | "otherletter" => some [.lo]
  | "l" | "letter" => some [.lu, .ll, .lt, .lm, .lo]
  | "mn" | "nonspacingmark" => some [.mn]
  | "mc" | "spacingmark" => some [.mc]
  | "me" | "enclosingmark" => some [.me]
  | "m" | "mark" | "combiningmark" => some [.mn, .mc, .me]
  | "nd" | "decimalnumber" | "digit" => some [.nd]
  | "nl" | "letternumber" => some [.nl]
  | "no" | "othernumber" => some [.no]
  | "n" | "number" => some [.nd, .nl, .no]
  | "pc" | "connectorpunctuation" => some [.pc]
  | "pd" | "dashpunctuation" => some [.pd]
  | "ps" | "openpunctuation" => some [.ps]
  | "pe" | "closepunctuation" => some [.pe]
  | "pi" | "initialpunctuation" => some [.pi]
  | "pf" | "finalpunctuation" => some [.pf]
  | "po" | "otherpunctuation" => some [.po]
  | "p" | "punctuation" | "punct" => some [.pc, .pd, .ps, .pe, .pi, .pf, .po]
  | "sm" | "mathsymbol" => some [.sm]
  | "sc" | "currencysymbol" => some [.sc]
  | "sk" | "modifiersymbol" => some [.sk]
  | "so" | "othersymbol" => some [.so]
  | "s" | "symbol" => some [.sm, .sc, .sk, .so]
  | "zs" | "spaceseparator" => some [.zs]
  | "zl" | "lineseparator" => some [.zl]
  | "zp" | "paragraphseparator" => some [.zp]
  | "z" | "separator" => some [.zs, .zl, .zp]
  | "cc" | "control" | "cntrl" => some [.cc]
  | "cf" | "format" => some [.cf]
  | "co" | "privateuse" => some [.co]
  | "cn" | "unassigned" => some [.cn]
  | "c" | "other" => some [.cc, .cf, .cs, .co, .cn]
  | _ => none

namespace CharClass

/-- The characters of any of the given categories. -/
def inCategories (categories : List GeneralCategory) : CharClass :=
  ofCategories fun found ↦ found ∈ categories

/-! ### Properties made from categories and case mappings -/

def lowercase : CharClass :=
  (inCategories [.ll]).union ((ofTable otherLowercaseRanges).difference later)

def uppercase : CharClass :=
  (inCategories [.lu]).union ((ofTable otherUppercaseRanges).difference later)

def cased : CharClass := (lowercase.union uppercase).union (inCategories [.lt])

def caseIgnorable : CharClass :=
  (inCategories [.mn, .me, .cf, .lm, .sk]).union (ofTable innerPunctuationRanges)

/-- The known characters with a lower case of one other character, each with that lower case. -/
def lowercasePairs : List (Nat × Nat) :=
  ((List.range 26).map fun place ↦ (65 + place, 97 + place)) ++
    (shiftPairs lowercaseRuns).filter fun pair ↦ !later.containsCode pair.1

/-- The characters that change in lower case. The capital i with a dot becomes two characters. -/
def changesLowercased : CharClass :=
  (ofCodes (lowercasePairs.map (·.1))).union (single '\u0130')

/-- The characters that change in upper case. -/
def changesUppercased : CharClass :=
  (ofCodes (lowercasePairs.map (·.2))).union (ofTable otherUppercasedRanges)

/-- The characters that change in title case. -/
def changesTitlecased : CharClass :=
  changesUppercased.symmetricDifference (ofTable titlecasedRanges)

/-- The characters that change by case folding. -/
def changesCasefolded : CharClass :=
  changesLowercased.symmetricDifference (ofTable casefoldedRanges)

/-- The characters that extend the one before them. -/
def graphemeExtend : CharClass := (inCategories [.mn, .me]).union (ofTable otherExtenderRanges)

/-- The characters that stand by themselves. -/
def graphemeBase : CharClass :=
  ((inCategories [.cc, .cf, .cs, .co, .cn, .zl, .zp]).union graphemeExtend).complement

/-- The characters that can start an identifier. -/
def identifierStart : CharClass :=
  ((inCategories [.lu, .ll, .lt, .lm, .lo, .nl]).union (ofTable otherStartRanges)).difference
    (ofTable patternSyntaxRanges)

/-- The characters that can go on in an identifier. -/
def identifierContinue : CharClass :=
  (identifierStart.union (inCategories [.mn, .mc, .nd, .pc])).union (ofTable otherContinueRanges)

def mathematical : CharClass := (inCategories [.sm]).union (ofTable otherMathRanges)

/-! ### Names -/

/-- The class of a property that characters have or do not have. -/
def property? (name : String) : Option CharClass :=
  match name with
  | "alphabetic" | "alpha" => some alphabetic
  | "asciihexdigit" | "ahex" => some (ofTable asciiHexDigitRanges)
  | "bidicontrol" | "bidic" => some (ofTable bidiControlRanges)
  | "bidimirrored" | "bidim" => some (ofTable bidiMirroredRanges)
  | "caseignorable" | "ci" => some caseIgnorable
  | "cased" => some cased
  | "changeswhencasefolded" | "cwcf" => some changesCasefolded
  | "changeswhencasemapped" | "cwcm" =>
    some ((changesLowercased.union changesUppercased).union changesTitlecased)
  | "changeswhenlowercased" | "cwl" => some changesLowercased
  | "changeswhentitlecased" | "cwt" => some changesTitlecased
  | "changeswhenuppercased" | "cwu" => some changesUppercased
  | "dash" => some (ofTable dashRanges)
  | "defaultignorablecodepoint" | "di" => some (ofTable defaultIgnorableRanges)
  | "deprecated" | "dep" => some (ofTable deprecatedRanges)
  | "diacritic" | "dia" => some (ofTable diacriticRanges)
  | "emoji" => some (ofTable emojiRanges)
  | "emojicomponent" | "ecomp" => some (ofTable emojiComponentRanges)
  | "emojimodifier" | "emod" => some (ofTable emojiModifierRanges)
  | "emojimodifierbase" | "ebase" => some (ofTable emojiModifierBaseRanges)
  | "emojipresentation" | "epres" => some (ofTable emojiPresentationRanges)
  | "extendedpictographic" | "extpict" => some (ofTable pictographicRanges)
  | "extender" | "ext" => some (ofTable extenderRanges)
  | "graphemebase" | "grbase" => some graphemeBase
  | "graphemeextend" | "grext" => some graphemeExtend
  | "hexdigit" | "hex" => some (ofTable hexDigitRanges)
  | "idsbinaryoperator" | "idsb" => some (ofTable idsBinaryRanges)
  | "idstrinaryoperator" | "idst" => some (ofTable idsTrinaryRanges)
  | "idcontinue" | "idc" => some identifierContinue
  | "idstart" | "ids" => some identifierStart
  | "ideographic" | "ideo" => some (ofTable ideographicRanges)
  | "joincontrol" | "joinc" => some (ofTable joinControlRanges)
  | "logicalorderexception" | "loe" => some (ofTable logicalOrderExceptionRanges)
  | "lowercase" | "lower" => some lowercase
  | "math" => some mathematical
  | "noncharactercodepoint" | "nchar" => some (ofTable noncharacterRanges)
  | "patternsyntax" | "patsyn" => some (ofTable patternSyntaxRanges)
  | "patternwhitespace" | "patws" => some (ofTable patternWhiteSpaceRanges)
  | "quotationmark" | "qmark" => some (ofTable quotationMarkRanges)
  | "radical" => some (ofTable radicalRanges)
  | "regionalindicator" | "ri" => some (ofTable regionalIndicatorRanges)
  | "sentenceterminal" | "sterm" => some (ofTable sentenceTerminalRanges)
  | "softdotted" | "sd" => some (ofTable softDottedRanges)
  | "terminalpunctuation" | "term" => some (ofTable terminalPunctuationRanges)
  | "unifiedideograph" | "uideo" => some (ofTable unifiedIdeographRanges)
  | "uppercase" | "upper" => some uppercase
  | "variationselector" | "vs" => some (ofTable variationSelectorRanges)
  | "whitespace" | "wspace" | "space" => some blank
  | "xidcontinue" | "xidc" =>
    some (identifierContinue.difference (ofTable unstableContinueRanges))
  | "xidstart" | "xids" => some (identifierStart.difference (ofTable unstableStartRanges))
  | _ => none

/-- The class of a general category, or of several that go by one name. -/
def category? (name : String) : Option CharClass :=
  match name with
  | "any" => some empty.complement
  | "assigned" => some (inCategories [.cn]).complement
  | "ascii" => some ascii
  | _ => (categoriesNamed? name).map inCategories

def script? (name : String) : Option CharClass :=
  (scripts.find? fun found ↦ found.names.contains name).map fun found ↦ ofTable found.ranges

/-- The class of a script with the characters that it shares with others. What scripts share belongs
neither to the common script nor to the inherited one. -/
def sharedScript? (name : String) : Option CharClass :=
  (scripts.find? fun found ↦ found.names.contains name).map fun found ↦
    if found.names.contains "common" || found.names.contains "inherited" then
      scripts.foldl (fun left other ↦ left.difference (ofTable other.shared)) (ofTable found.ranges)
    else (ofTable found.ranges).union (ofTable found.shared)

/-- The class with a name. A property comes before a category, and a category before a script. -/
def named? (name : List Char) : Option CharClass :=
  let name := bareName name
  (property? name).orElse fun _ ↦ (category? name).orElse fun _ ↦ script? name

/-- The class of the characters for which a property has a value. -/
def valued? (property value : List Char) : Option CharClass :=
  match bareName property with
  | "generalcategory" | "gc" => category? (bareName value)
  | "script" | "sc" => script? (bareName value)
  | "scriptextensions" | "scx" => sharedScript? (bareName value)
  | _ => none

end CharClass

end Packrat
