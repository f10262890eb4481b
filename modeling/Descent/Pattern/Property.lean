import Descent.Pattern.Error
import Descent.Pattern.Property.Age
import Descent.Pattern.Property.Boundary

/-! # Properties by name

A property is given by its own name, or as a value of the general category, of the script or the
scripts that use a character, of its age or of where a text may be divided. Names are compared
without case, spaces, hyphens and underscores, and a leading `is` does not count. -/
namespace Descent.Pattern

/-- One category is abbreviated to the letter `c`, which `is` in front turns into another name. -/
def plainName (name : List Char) : List Char :=
  let kept := name.filter fun c => c.toNat < 128 && c != ' ' && c != '_' && c != '-'
  let plain := kept.map Char.toLower
  if (name.take 2).map Char.toLower = ['i', 's'] then
    if plain = ['i', 's', 'c'] then plain else plain.drop 2
  else plain

def ascii : CharSet := .range '\x00' '\x7f'

def categoryGroup? : String → Option (List Unicode.Category)
  | "lc" | "casedletter" => some Unicode.Category.casedLetters
  | "l" | "letter" => some Unicode.Category.letters
  | "m" | "mark" | "combiningmark" => some Unicode.Category.marks
  | "n" | "number" => some Unicode.Category.numbers
  | "p" | "punctuation" | "punct" => some Unicode.Category.punctuation
  | "s" | "symbol" => some Unicode.Category.symbols
  | "z" | "separator" => some Unicode.Category.separators
  | _ => none

def oneCategory? : String → Option Unicode.Category
  | "lu" | "uppercaseletter" => some .uppercaseLetter
  | "ll" | "lowercaseletter" => some .lowercaseLetter
  | "lt" | "titlecaseletter" => some .titlecaseLetter
  | "lm" | "modifierletter" => some .modifierLetter
  | "lo" | "otherletter" => some .otherLetter
  | "mn" | "nonspacingmark" => some .nonspacingMark
  | "mc" | "spacingmark" => some .spacingMark
  | "me" | "enclosingmark" => some .enclosingMark
  | "nd" | "decimalnumber" | "digit" => some .decimalNumber
  | "nl" | "letternumber" => some .letterNumber
  | "no" | "othernumber" => some .otherNumber
  | "pc" | "connectorpunctuation" => some .connector
  | "pd" | "dashpunctuation" => some .dash
  | "ps" | "openpunctuation" => some .opening
  | "pe" | "closepunctuation" => some .closing
  | "pi" | "initialpunctuation" => some .initialQuote
  | "pf" | "finalpunctuation" => some .finalQuote
  | "po" | "otherpunctuation" => some .otherPunctuation
  | "sm" | "mathsymbol" => some .mathSymbol
  | "sc" | "currencysymbol" => some .currencySymbol
  | "sk" | "modifiersymbol" => some .modifierSymbol
  | "so" | "othersymbol" => some .otherSymbol
  | "zs" | "spaceseparator" => some .spaceSeparator
  | "zl" | "lineseparator" => some .lineSeparator
  | "zp" | "paragraphseparator" => some .paragraphSeparator
  | "cc" | "cntrl" | "control" => some .control
  | "cf" | "format" => some .format
  | "co" | "privateuse" => some .privateUse
  | _ => none

def category? (name : String) : Option CharSet :=
  match name with
  | "any" => some .all
  | "ascii" => some ascii
  | "assigned" => some (.categories Unicode.Category.assigned)
  | "cn" | "unassigned" => some (.compl (.categories Unicode.Category.assigned))
  | "c" | "other" => some (.compl (.categories Unicode.Category.visible))
  | _ => match categoryGroup? name, oneCategory? name with
    | some ks, _ => some (.categories ks)
    | none, some k => some (.category k)
    | none, none => none

/-- Names of categories and scripts without any character that could be listed. -/
def emptyNames : List String := ["cs", "surrogate", "hrkt", "katakanaorhiragana", "zzzz", "unknown"]

def script? (name : String) : Option Unicode.Script :=
  Unicode.Script.all.find? fun s => s.names.contains name

/-- The set with a plain name that a property has by itself. -/
def setNamed (name : List Char) : Except ErrorKind CharSet :=
  let name := String.ofList (plainName name)
  match binary? name, category? name, script? name with
  | some s, _, _ => .ok s
  | _, some s, _ => .ok s
  | _, _, some s => .ok (.script s)
  | none, none, none =>
    .error (if emptyNames.contains name then .propertyValueUnknown else .propertyUnknown)

def setWith (name value : List Char) : Except ErrorKind CharSet :=
  let name := String.ofList (plainName name)
  let value := String.ofList (plainName value)
  let set? : Option CharSet :=
    if ["gc", "generalcategory"].contains name then category? value
    else if ["sc", "script"].contains name then (script? value).map .script
    else if ["scx", "scriptextensions"].contains name then (script? value).map .usedIn
    else if name == "age" then age? value
    else if ["gcb", "graphemeclusterbreak"].contains name then named? graphemeBreaks value
    else if ["wb", "wordbreak"].contains name then named? wordBreaks value
    else if ["sb", "sentencebreak"].contains name then named? sentenceBreaks value
    else none
  match set? with
  | some s => .ok s
  | none =>
    .error (if isPropertyName name then .propertyValueUnknown else .propertyUnknown)

/-- Splits at the first place where `mark` stands. -/
def splitAtMark? (mark : List Char) : List Char → Option (List Char × List Char)
  | [] => none
  | c :: t =>
    if mark.isPrefixOf (c :: t) then some ([], (c :: t).drop mark.length)
    else (splitAtMark? mark t).map fun (a, b) => (c :: a, b)

/-- The set that the text between the braces of a property escape stands for. -/
def propertySet (t : List Char) : Except ErrorKind CharSet :=
  match splitAtMark? ['!', '='] t, splitAtMark? [':'] t, splitAtMark? ['='] t with
  | some (name, value), _, _ => setWith name value
  | none, some (name, value), _ => setWith name value
  | none, none, some (name, value) => setWith name value
  | none, none, none => setNamed t

end Descent.Pattern
