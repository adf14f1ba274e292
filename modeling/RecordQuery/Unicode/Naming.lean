import RecordQuery.Text.Ascii
import RecordQuery.Unicode.Property

set_option autoImplicit false

/-!
# Names of properties

Properties of characters and their values have a full and a short name, and some a third. Names are
matched loosely: case, blanks, dashes and underscores do not matter, nor does a leading `is`.

## Main definitions

* `RecordQuery.Unicode.looseName` — what of a name matters.
* `RecordQuery.Unicode.property` — what the name of a property stands for.
* `RecordQuery.Unicode.category`, `RecordQuery.Unicode.script` — the characters of a category or a
  script.
* `RecordQuery.Unicode.valueCodes?` — the characters for which a property has a value.
-/

namespace RecordQuery.Unicode

/-! ## Loose names -/

/-- What matters of the characters of a name. -/
def looseChars (cs : List Char) : List Char :=
  (cs.filter fun c => c ≠ ' ' && c ≠ '_' && c ≠ '-' && c.toNat < 0x80).map lowerAscii

/-- What matters of a name. The name `isc` is one by itself. -/
def looseName (name : String) : String :=
  let cs := name.toList
  if (cs.take 2).map lowerAscii = ['i', 's'] then
    let rest := looseChars (cs.drop 2)
    if rest = ['c'] then "isc" else String.ofList rest
  else String.ofList (looseChars cs)

/-- Whether a set has a name. -/
def NamedSet.answersTo (s : NamedSet) (name : String) : Bool :=
  looseName s.name == name || looseName s.short == name

/-- The set of a table with a name. -/
def named? (table : List NamedSet) (name : String) : Option CodeSet :=
  (table.find? (·.answersTo name)).map (·.codes)

/-! ## Properties -/

/-- The properties with values of their own for which classes can be made. -/
inductive ValuedProperty where
  | category
  | script
  | scriptExtension
  | age
  | graphemeBreak
  | wordBreak
  | sentenceBreak
deriving DecidableEq, Repr

/-- What the name of a property stands for. -/
inductive Property where
  | binary (codes : CodeSet)
  | valued (p : ValuedProperty)
  /-- A property for which no classes can be made. -/
  | classless

/-- The names of the properties with values. -/
def valuedProperties : List (List String × ValuedProperty) := [
  (["gc", "generalcategory"], .category),
  (["sc", "script"], .script),
  (["scx", "scriptextensions"], .scriptExtension),
  (["age"], .age),
  (["gcb", "graphemeclusterbreak"], .graphemeBreak),
  (["wb", "wordbreak"], .wordBreak),
  (["sb", "sentencebreak"], .sentenceBreak)]

/-- The names of the binary properties that follow from others. -/
def derivedProperties : List (List String × CodeSet) := [
  (["cased"], cased),
  (["cwl", "changeswhenlowercased"], changesWhenLowered),
  (["grbase", "graphemebase"], graphemeBase),
  (["oalpha", "otheralphabetic"], otherAlphabetic),
  (["ogrext", "othergraphemeextend"], graphemeExtend.diff (categoryCodes ["Mn", "Me"])),
  (["olower", "otherlowercase"], (binaryCodes "Lowercase").diff (categoryCodes ["Ll"])),
  (["omath", "othermath"], (binaryCodes "Math").diff (categoryCodes ["Sm"])),
  (["oupper", "otheruppercase"], (binaryCodes "Uppercase").diff (categoryCodes ["Lu"])),
  (["space"], blankCodes)]

/-- The names of the properties for which no classes can be made. -/
def classlessProperties : List String := [
  "bc", "bidiclass", "blk", "block", "bmg", "bidimirroringglyph", "bpb", "bidipairedbracket",
  "bpt", "bidipairedbrackettype", "ccc", "canonicalcombiningclass", "ce", "compositionexclusion",
  "cf", "casefolding", "cjkaccountingnumeric", "kaccountingnumeric", "cjkcompatibilityvariant",
  "kcompatibilityvariant", "cjkiicore", "kiicore", "cjkirggsource", "kirggsource",
  "cjkirghsource", "kirghsource", "cjkirgjsource", "kirgjsource", "cjkirgkpsource",
  "kirgkpsource", "cjkirgksource", "kirgksource", "cjkirgmsource", "kirgmsource",
  "cjkirgssource", "kirgssource", "cjkirgtsource", "kirgtsource", "cjkirguksource",
  "kirguksource", "cjkirgusource", "kirgusource", "cjkirgvsource", "kirgvsource",
  "cjkothernumeric", "kothernumeric", "cjkprimarynumeric", "kprimarynumeric", "cjkrsunicode",
  "krsunicode", "unicoderadicalstroke", "compex", "fullcompositionexclusion", "cwkcf",
  "changeswhennfkccasefolded", "dm", "decompositionmapping", "dt", "decompositiontype", "ea",
  "eastasianwidth", "equideo", "equivalentunifiedideograph", "expandsonnfc", "xonfc",
  "expandsonnfd", "xonfd", "expandsonnfkc", "xonfkc", "expandsonnfkd", "xonfkd", "fcnfkc",
  "fcnfkcclosure", "hst", "hangulsyllabletype", "incb", "indicconjunctbreak", "inpc",
  "indicpositionalcategory", "insc", "indicsyllabiccategory", "isc", "isocomment", "jg",
  "joininggroup", "jsn", "jamoshortname", "jt", "joiningtype", "lb", "linebreak", "lc",
  "lowercasemapping", "na", "name", "na1", "unicode1name", "namealias", "nfcqc", "nfcquickcheck",
  "nfdqc", "nfdquickcheck", "nfkccf", "nfkccasefold", "nfkcqc", "nfkcquickcheck", "nfkcscf",
  "nfkcsimplecasefold", "nfkdqc", "nfkdquickcheck", "nt", "numerictype", "nv", "numericvalue",
  "scf", "simplecasefolding", "sfc", "slc", "simplelowercasemapping", "stc",
  "simpletitlecasemapping", "suc", "simpleuppercasemapping", "tc", "titlecasemapping", "uc",
  "uppercasemapping", "vo", "verticalorientation"]

/-- What a name stands for, if there is a property with that name. -/
def property? (name : String) : Option Property :=
  match valuedProperties.find? (·.1.contains name) with
  | some (_, p) => some (.valued p)
  | none =>
    match derivedProperties.find? (·.1.contains name), named? Table.binaryProperties name with
    | some (_, codes), _ => some (.binary codes)
    | none, some codes => some (.binary codes)
    | none, none => if classlessProperties.contains name then some .classless else none

/-! ## Categories and scripts -/

/-- What the name of a category or a script stands for. -/
inductive NamedValue where
  | codes (s : CodeSet)
  /-- A value that no class can be made of. -/
  | classless
  | unknown

/-- The value with these code points, if there are any. -/
def NamedValue.of? : Option CodeSet → NamedValue
  | some s => codes s
  | none => unknown

/-- The code points of a value that a class can be made of. -/
def NamedValue.codes? : NamedValue → Option CodeSet
  | codes s => some s
  | classless => none
  | unknown => none

/-- The groups of categories and their third names, and the third names of categories. -/
def categoryNames : List (List String × CodeSet) :=
  (categoryGroups.map fun g => ([looseName g.name, looseName g.short], categoryCodes g.members)) ++
    [(["any"], CodeSet.all), (["assigned"], unassigned.complement),
      (["ascii"], CodeSet.range 0 0x7F), (["c", "other"], otherCodes),
      (["cn", "unassigned"], unassigned), (["cntrl"], categoryCodes ["Cc"]),
      (["combiningmark"], categoryCodes ["Mn", "Mc", "Me"]), (["digit"], digitCodes),
      (["punct"], categoryCodes ["Pc", "Pd", "Ps", "Pe", "Pi", "Pf", "Po"])]

/-- The category or group of categories with a name. -/
def category (name : String) : NamedValue :=
  if name = "cs" || name = "surrogate" then .classless
  else match categoryNames.find? (·.1.contains name) with
    | some (_, codes) => .codes codes
    | none => .of? (named? Table.categories name)

/-- The full name of a script with a third name. -/
def scriptOfThirdName (name : String) : String :=
  if name = "qaac" then "coptic" else if name = "qaai" then "inherited" else name

/-- Whether a name is that of the script of unassigned characters, or of the one for Japanese
syllables in general, which no character has. -/
def isClasslessScript (name : String) : Bool :=
  ["zzzz", "unknown", "hrkt", "katakanaorhiragana"].contains name

/-- The script with a name. -/
def script (name : String) : NamedValue :=
  if isClasslessScript name then .classless
  else .of? (named? Table.scripts (scriptOfThirdName name))

/-- The characters used in the script with a name. -/
def scriptExtension? (name : String) : Option CodeSet :=
  let name := scriptOfThirdName name
  (named? Table.scriptExtensions name).or (named? Table.scripts name)

/-! ## Other values -/

/-- The code points assigned in the version with a name or before it. -/
def assignedBy? (name : String) : Option CodeSet :=
  match Table.ages.find? (·.answersTo name) with
  | some version =>
    let older := Table.ages.takeWhile (·.name != version.name)
    some (CodeSet.unions (version.codes :: older.map (·.codes)))
  | none => none

/-- The class of cuts between user-perceived characters with a name. -/
def graphemeBreak? (name : String) : Option CodeSet :=
  if name = "lv" then some openSyllables
  else if name = "lvt" then some closedSyllables
  else named? Table.graphemeBreaks name

/-- The code points for which a property has the value with a name. -/
def valueCodes? (p : ValuedProperty) (name : String) : Option CodeSet :=
  match p with
  | .category => (category name).codes?
  | .script => (script name).codes?
  | .scriptExtension => scriptExtension? name
  | .age => assignedBy? name
  | .graphemeBreak => graphemeBreak? name
  | .wordBreak => named? Table.wordBreaks name
  | .sentenceBreak => named? Table.sentenceBreaks name

end RecordQuery.Unicode
