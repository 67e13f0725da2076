import SealedBuild.Unicode.Casing
import SealedBuild.Unicode.CharSet
import SealedBuild.Unicode.Symbol

/-!
# Names of character properties

A property is looked up by its name in any of the usual spellings: case, blanks, underscores,
hyphens and a leading `is` do not count. A name stands for a binary property, else for a general
category, else for a script; a property and a value name a category, a script, or the extensions of
a script.
-/

namespace SealedBuild.Unicode

open SealedBuild.Text

/-- The lower-case ASCII letters, digits and signs of a name, without blanks, underscores and
hyphens. -/
def plainName (name : List Char) : List Char :=
  (name.filter fun c => c.toNat < 0x80 && !(c == ' ' || c == '_' || c == '-')).map Char.toLower

/-- The spelling under which a name is looked up. A leading `is` does not count, except in the name
that would leave only the letter c. -/
def lookupName (name : List Char) : String :=
  match name with
  | i :: s :: rest =>
    if i.toLower = 'i' ∧ s.toLower = 's' then
      if plainName rest = ['c'] then "isc" else String.ofList (plainName rest)
    else String.ofList (plainName name)
  | _ => String.ofList (plainName name)

/-- The binary properties with the spellings of their names. -/
def binaryProperties : List (List String × CharSet) := [
  (["alphabetic", "alpha"], .table Property.alphabetic),
  (["idstart", "ids"], .table Property.idStart),
  (["idcontinue", "idc"], .table Property.idContinue),
  (["xidstart", "xids"], .table Property.xidStart),
  (["xidcontinue", "xidc"], .table Property.xidContinue),
  (["graphemebase", "grbase"], .table Property.graphemeBase),
  (["graphemeextend", "grext"], .table Property.graphemeExtend),
  (["joincontrol", "joinc"], .table Property.joinControl),
  (["lowercase", "lower"], .table Property.lowercase),
  (["uppercase", "upper"], .table Property.uppercase),
  (["cased"], .table Property.cased),
  (["caseignorable", "ci"], .table Property.caseIgnorable),
  (["changeswhencasefolded", "cwcf"], .table Property.changesWhenCasefolded),
  (["changeswhencasemapped", "cwcm"], .table Property.changesWhenCasemapped),
  (["changeswhenlowercased", "cwl"], .table Property.changesWhenLowercased),
  (["changeswhentitlecased", "cwt"], .table Property.changesWhenTitlecased),
  (["changeswhenuppercased", "cwu"], .table Property.changesWhenUppercased),
  (["softdotted", "sd"], .table Property.softDotted),
  (["asciihexdigit", "ahex"], .table Property.asciiHexDigit),
  (["bidicontrol", "bidic"], .table Property.bidiControl),
  (["bidimirrored", "bidim"], .table Property.bidiMirrored),
  (["dash"], .table Property.dash),
  (["defaultignorablecodepoint", "di"], .table Property.defaultIgnorableCodePoint),
  (["deprecated", "dep"], .table Property.deprecated),
  (["diacritic", "dia"], .table Property.diacritic),
  (["emoji"], .table Property.emoji),
  (["emojicomponent", "ecomp"], .table Property.emojiComponent),
  (["emojimodifier", "emod"], .table Property.emojiModifier),
  (["emojimodifierbase", "ebase"], .table Property.emojiModifierBase),
  (["emojipresentation", "epres"], .table Property.emojiPresentation),
  (["extendedpictographic", "extpict"], .table Property.extendedPictographic),
  (["extender", "ext"], .table Property.extender),
  (["hexdigit", "hex"], .table Property.hexDigit),
  (["idsbinaryoperator", "idsb"], .table Property.idsBinaryOperator),
  (["idstrinaryoperator", "idst"], .table Property.idsTrinaryOperator),
  (["ideographic", "ideo"], .table Property.ideographic),
  (["logicalorderexception", "loe"], .table Property.logicalOrderException),
  (["math"], .table Property.math),
  (["noncharactercodepoint", "nchar"], .table Property.noncharacterCodePoint),
  (["patternsyntax", "patsyn"], .table Property.patternSyntax),
  (["patternwhitespace", "patws"], .table Property.patternWhiteSpace),
  (["quotationmark", "qmark"], .table Property.quotationMark),
  (["radical"], .table Property.radical),
  (["regionalindicator", "ri"], .table Property.regionalIndicator),
  (["sentenceterminal", "sterm"], .table Property.sentenceTerminal),
  (["terminalpunctuation", "term"], .table Property.terminalPunctuation),
  (["unifiedideograph", "uideo"], .table Property.unifiedIdeograph),
  (["variationselector", "vs"], .table Property.variationSelector),
  (["prependedconcatenationmark", "pcm"], .table Property.prependedConcatenationMark),
  (["idsunaryoperator", "idsu"], .table Property.idsUnaryOperator),
  (["idcompatmathstart"], .table Property.idCompatMathStart),
  (["idcompatmathcontinue"], .table Property.idCompatMathContinue),
  (["modifiercombiningmark", "mcm"], .table Property.modifierCombiningMark),
  (["whitespace", "wspace", "space"], .blank),
  (["otheralphabetic", "oalpha"], .minus (.table Property.alphabetic)
    (.union (.union (.table Property.lowercase) (.table Property.uppercase))
      (.category ["Lt", "Lm", "Lo", "Nl"]))),
  (["otherdefaultignorablecodepoint", "odi"], .minus (.table Property.defaultIgnorableCodePoint)
    (.union (.category ["Cf"]) (.table Property.variationSelector))),
  (["othergraphemeextend", "ogrext"], .minus (.table Property.graphemeExtend)
    (.category ["Me", "Mn"])),
  (["otheridcontinue", "oidc"], .minus (.table Property.idContinue)
    (.union (.table Property.idStart) (.category ["Mn", "Mc", "Nd", "Pc"]))),
  (["otheridstart", "oids"], .minus (.table Property.idStart)
    (.category ["Ll", "Lm", "Lo", "Lt", "Lu", "Nl"])),
  (["otherlowercase", "olower"], .minus (.table Property.lowercase) (.category ["Ll"])),
  (["othermath", "omath"], .minus (.table Property.math) (.category ["Sm"])),
  (["otheruppercase", "oupper"], .minus (.table Property.uppercase) (.category ["Lu"]))
]

/-- The general categories and their groups, with the spellings of their names. -/
def categoryNames : List (List String × List String) := [
  (["c", "other"], ["Cc", "Cf", "Cn", "Co", "Cs"]),
  (["cc", "control", "cntrl"], ["Cc"]),
  (["cf", "format"], ["Cf"]),
  (["cn", "unassigned"], ["Cn"]),
  (["co", "privateuse"], ["Co"]),
  (["l", "letter"], ["Ll", "Lm", "Lo", "Lt", "Lu"]),
  (["lc", "casedletter"], ["Ll", "Lt", "Lu"]),
  (["ll", "lowercaseletter"], ["Ll"]),
  (["lm", "modifierletter"], ["Lm"]),
  (["lo", "otherletter"], ["Lo"]),
  (["lt", "titlecaseletter"], ["Lt"]),
  (["lu", "uppercaseletter"], ["Lu"]),
  (["m", "mark", "combiningmark"], ["Mc", "Me", "Mn"]),
  (["mc", "spacingmark"], ["Mc"]),
  (["me", "enclosingmark"], ["Me"]),
  (["mn", "nonspacingmark"], ["Mn"]),
  (["n", "number"], ["Nd", "Nl", "No"]),
  (["nd", "decimalnumber", "digit"], ["Nd"]),
  (["nl", "letternumber"], ["Nl"]),
  (["no", "othernumber"], ["No"]),
  (["p", "punctuation", "punct"], ["Pc", "Pd", "Pe", "Pf", "Pi", "Po", "Ps"]),
  (["pc", "connectorpunctuation"], ["Pc"]),
  (["pd", "dashpunctuation"], ["Pd"]),
  (["pe", "closepunctuation"], ["Pe"]),
  (["pf", "finalpunctuation"], ["Pf"]),
  (["pi", "initialpunctuation"], ["Pi"]),
  (["po", "otherpunctuation"], ["Po"]),
  (["ps", "openpunctuation"], ["Ps"]),
  (["s", "symbol"], ["Sc", "Sk", "Sm", "So"]),
  (["sc", "currencysymbol"], ["Sc"]),
  (["sk", "modifiersymbol"], ["Sk"]),
  (["sm", "mathsymbol"], ["Sm"]),
  (["so", "othersymbol"], ["So"]),
  (["z", "separator"], ["Zl", "Zp", "Zs"]),
  (["zl", "lineseparator"], ["Zl"]),
  (["zp", "paragraphseparator"], ["Zp"]),
  (["zs", "spaceseparator"], ["Zs"])
]

/-- The set named by an entry of a table of spellings. -/
def named? {α : Type} (entries : List (List String × α)) (name : String) : Option α :=
  (entries.find? fun entry => entry.1.contains name).map (·.2)

/-- The set of a general category. Besides the categories proper there are the sets of all
characters, of the assigned ones and of the ASCII ones. -/
def categorySet? (name : String) : Option CharSet :=
  if name = "any" then some .all
  else if name = "assigned" then some (.complement (.category ["Cn"]))
  else if name = "ascii" then some (.between (Char.ofNat 0) (Char.ofNat 0x7f))
  else (named? categoryNames name).map .category

/-- The scripts with the spellings of their names. -/
def scriptNames : List (List String × String) :=
  (words scriptNameLines).map fun entry =>
    let spellings := cutAt '/' entry
    (spellings.map fun s => String.ofList (plainName s),
      match spellings with
      | code :: _ => String.ofList code
      | [] => "")

/-- The set of a script. -/
def scriptSet? (name : String) : Option CharSet := (named? scriptNames name).map .script

/-- The table stored for a script code, as a set. -/
def storedFor (tables : List (String × CharTable)) (code : String) : CharSet :=
  match tables.find? (·.1 == code) with
  | some (_, members) => .table members
  | none => .empty

/-- The set of the characters that are used with a script. -/
def scriptExtensionSet? (name : String) : Option CharSet :=
  (named? scriptNames name).map fun code =>
    .minus (.union (.script code) (storedFor sharedWithScript code))
      (storedFor claimedFromScript code)

/-- The set that a name alone stands for. Three abbreviations that also abbreviate properties are
kept for the categories. -/
def propertySet? (name : List Char) : Option CharSet :=
  let key := lookupName name
  let binary :=
    if key = "cf" ∨ key = "sc" ∨ key = "lc" then none else named? binaryProperties key
  match binary with
  | some set => some set
  | none =>
    match categorySet? key with
    | some set => some set
    | none => scriptSet? key

/-- The set that a property and its value stand for. -/
def valueSet? (property value : List Char) : Option CharSet :=
  let property := lookupName property
  let value := lookupName value
  if property = "generalcategory" ∨ property = "gc" then categorySet? value
  else if property = "script" ∨ property = "sc" then scriptSet? value
  else if property = "scriptextensions" ∨ property = "scx" then scriptExtensionSet? value
  else none

end SealedBuild.Unicode
