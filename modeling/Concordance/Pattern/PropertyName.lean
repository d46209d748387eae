import Concordance.Pattern.Ast
import Concordance.Text.Property

/-!
Names of character classes.  Names are compared without regard to case, blanks, dashes, underscores
and a leading `is`.  A name alone is that of a property, else of a general category, else of a
script.  Values are known of general categories, scripts and ages; there are no classes of places
where text may be broken.
-/

namespace Concordance.Pattern

open Concordance.Text

namespace PropertyName

/-- The form in which names are compared.  `isc` is kept, as the name of a property that has no
class, so that it does not become `c`. -/
def normalized (name : String) : String :=
  let lower := name.toList.map Char.toLower
  let isPrefixed := ['i', 's'].isPrefixOf lower
  let body := if isPrefixed then lower.drop 2 else lower
  let kept := body.filter fun c => c.toNat < 0x80 && c != ' ' && c != '_' && c != '-'
  if isPrefixed && kept == ['c'] then "isc" else String.ofList kept

def properties : List (List String × CharSet) := [
  (["ahex", "asciihexdigit"], .asciiHexDigit),
  (["alpha", "alphabetic"], .alphabetic),
  (["bidic", "bidicontrol"], .bidiControl),
  (["bidim", "bidimirrored"], .bidiMirrored),
  (["ci", "caseignorable"], .caseIgnorable),
  (["cased"], .cased),
  (["cwcf", "changeswhencasefolded"], .changesWhenCasefolded),
  (["cwcm", "changeswhencasemapped"], .changesWhenCasemapped),
  (["cwl", "changeswhenlowercased"], .changesWhenLowercased),
  (["cwt", "changeswhentitlecased"], .changesWhenTitlecased),
  (["cwu", "changeswhenuppercased"], .changesWhenUppercased),
  (["dash"], .dash),
  (["di", "defaultignorablecodepoint"], .defaultIgnorableCodePoint),
  (["dep", "deprecated"], .deprecated),
  (["dia", "diacritic"], .diacritic),
  (["emoji"], .emoji),
  (["ecomp", "emojicomponent"], .emojiComponent),
  (["emod", "emojimodifier"], .emojiModifier),
  (["ebase", "emojimodifierbase"], .emojiModifierBase),
  (["epres", "emojipresentation"], .emojiPresentation),
  (["extpict", "extendedpictographic"], .extendedPictographic),
  (["ext", "extender"], .extender),
  (["grbase", "graphemebase"], .graphemeBase),
  (["grext", "graphemeextend"], .graphemeExtend),
  (["hex", "hexdigit"], .hexDigit),
  (["idc", "idcontinue"], .idContinue),
  (["ids", "idstart"], .idStart),
  (["ideo", "ideographic"], .ideographic),
  (["idsb", "idsbinaryoperator"], .idsBinaryOperator),
  (["idst", "idstrinaryoperator"], .idsTrinaryOperator),
  (["joinc", "joincontrol"], .joinControl),
  (["loe", "logicalorderexception"], .logicalOrderException),
  (["lower", "lowercase"], .lowercase),
  (["math"], .math),
  (["nchar", "noncharactercodepoint"], .noncharacterCodePoint),
  (["patsyn", "patternsyntax"], .patternSyntax),
  (["patws", "patternwhitespace"], .patternWhiteSpace),
  (["qmark", "quotationmark"], .quotationMark),
  (["radical"], .radical),
  (["ri", "regionalindicator"], .regionalIndicator),
  (["sd", "softdotted"], .softDotted),
  (["sterm", "sentenceterminal"], .sentenceTerminal),
  (["term", "terminalpunctuation"], .terminalPunctuation),
  (["uideo", "unifiedideograph"], .unifiedIdeograph),
  (["upper", "uppercase"], .uppercase),
  (["vs", "variationselector"], .variationSelector),
  (["space", "whitespace", "wspace"], .blank),
  (["xidc", "xidcontinue"], .xidContinue),
  (["xids", "xidstart"], .xidStart)]

/-- Properties whose names are known but which are no classes by themselves. -/
def valuedProperties : List String :=
  ["age", "gc", "generalcategory", "script", "scx", "scriptextensions"]

def categoryNames : List (List String × CharSet) := [
  (["any"], .all),
  (["assigned"], .compl (.category .unassigned)),
  (["ascii"], .interval 0 0x7F),
  (["l", "letter"], .letter),
  (["lc", "casedletter"],
    .categories [.uppercaseLetter, .lowercaseLetter, .titlecaseLetter]),
  (["lu", "uppercaseletter"], .category .uppercaseLetter),
  (["ll", "lowercaseletter"], .category .lowercaseLetter),
  (["lt", "titlecaseletter"], .category .titlecaseLetter),
  (["lm", "modifierletter"], .category .modifierLetter),
  (["lo", "otherletter"], .category .otherLetter),
  (["m", "mark", "combiningmark"], .mark),
  (["mn", "nonspacingmark"], .category .nonspacingMark),
  (["mc", "spacingmark"], .category .spacingMark),
  (["me", "enclosingmark"], .category .enclosingMark),
  (["n", "number"], .number),
  (["nd", "decimalnumber", "digit"], .category .decimalNumber),
  (["nl", "letternumber"], .category .letterNumber),
  (["no", "othernumber"], .category .otherNumber),
  (["p", "punctuation", "punct"], .punctuation),
  (["pc", "connectorpunctuation"], .category .connectorPunctuation),
  (["pd", "dashpunctuation"], .category .dashPunctuation),
  (["ps", "openpunctuation"], .category .openPunctuation),
  (["pe", "closepunctuation"], .category .closePunctuation),
  (["pi", "initialpunctuation"], .category .initialPunctuation),
  (["pf", "finalpunctuation"], .category .finalPunctuation),
  (["po", "otherpunctuation"], .category .otherPunctuation),
  (["s", "symbol"], .symbol),
  (["sm", "mathsymbol"], .category .mathSymbol),
  (["sc", "currencysymbol"], .category .currencySymbol),
  (["sk", "modifiersymbol"], .category .modifierSymbol),
  (["so", "othersymbol"], .category .otherSymbol),
  (["z", "separator"], .separator),
  (["zs", "spaceseparator"], .category .spaceSeparator),
  (["zl", "lineseparator"], .category .lineSeparator),
  (["zp", "paragraphseparator"], .category .paragraphSeparator),
  (["c", "other"], .other),
  (["cc", "control", "cntrl"], .category .control),
  (["cf", "format"], .category .format),
  (["co", "privateuse"], .category .privateUse),
  (["cn", "unassigned"], .category .unassigned)]

def find? (name : String) (table : List (List String × CharSet)) : Option CharSet :=
  (table.find? fun entry => entry.1.contains name).map Prod.snd

def category? (name : String) : Option CharSet :=
  find? name categoryNames

/-- The code of a script. -/
def scriptCode? (name : String) : Option String :=
  let group := Script.nameGroups.find? fun names => names.any fun other => normalized other == name
  group.bind List.head?

/-- The class of a name alone.  A property goes before a category or a script, except where its
short name is also that of a category. -/
def alone? (name : String) : Option CharSet :=
  let isCategory := name == "cf" || name == "sc" || name == "lc"
  if !isCategory && valuedProperties.contains name then none
  else
    (if isCategory then none else find? name properties).or
      ((category? name).or ((scriptCode? name).map .script))

end PropertyName

def PropertyQuery.chars? : PropertyQuery → Option CharSet
  | .name text => PropertyName.alone? (PropertyName.normalized text)
  | .value property text =>
    let value := PropertyName.normalized text
    match PropertyName.normalized property with
    | "gc" | "generalcategory" => PropertyName.category? value
    | "sc" | "script" => (PropertyName.scriptCode? value).map .script
    | "scx" | "scriptextensions" => (PropertyName.scriptCode? value).map .scriptExtensions
    | "age" => (Age.ofName? value).map .age
    | _ => none

end Concordance.Pattern
