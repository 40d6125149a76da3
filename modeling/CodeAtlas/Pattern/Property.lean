/-
  CodeAtlas.Pattern.Property — character properties by name.

  Names of properties and values are compared loosely: case, blanks, underscores and minus signs do
  not matter, and neither does `is` in front.  A name alone is a binary property, a general category
  or a script, looked for in this order; with a value it is one of the properties that have several.
-/
import CodeAtlas.Pattern.Expression
import CodeAtlas.Text.Property.Age
import CodeAtlas.Text.Property.Binary
import CodeAtlas.Text.Property.Break
import CodeAtlas.Text.Property.Category
import CodeAtlas.Text.Property.Script

namespace CodeAtlas.Pattern

/-! ## §1. Names -/

/-- Whether a name has `is` in front. -/
def hasIs : List Char → Bool
  | i :: s :: _ => i.toLower == 'i' && s.toLower == 's'
  | _ => false

/-- The form in which names are compared.  The short name `isc` of comments is kept apart from that
of the category `C`. -/
def looseName (name : String) : String :=
  let s := name.toList
  let body := if hasIs s then s.drop 2 else s
  let kept := body.filter fun c => c.toNat < 128 && c != ' ' && c != '_' && c != '-'
  let loose := String.ofList (kept.map Char.toLower)
  if hasIs s && loose = "c" then "isc" else loose

/-! ## §2. Categories and scripts -/

/-- Groups of categories. -/
def categoryGroups : List (List String × List String) := [
  (["c", "other"], ["cc", "cf", "cn", "co", "cs"]),
  (["l", "letter"], ["lu", "ll", "lt", "lm", "lo"]),
  (["lc", "casedletter"], ["lu", "ll", "lt"]),
  (["m", "mark", "combiningmark"], ["mc", "me", "mn"]),
  (["n", "number"], ["nd", "nl", "no"]),
  (["p", "punctuation", "punct"], ["pc", "pd", "pe", "pf", "pi", "po", "ps"]),
  (["s", "symbol"], ["sc", "sk", "sm", "so"]),
  (["z", "separator"], ["zl", "zp", "zs"])]

/-- The characters of a category or of a group of categories.  Surrogates are no characters. -/
def category? (name : String) : Option CharSet :=
  match name with
  | "any" => some .all
  | "ascii" => some (.range '\x00' '\x7f')
  | "assigned" => (categories.set? "cn").map CharSet.compl
  | "cs" => none
  | "surrogate" => none
  | name =>
    match categoryGroups.find? (·.1.contains name) with
    | some (_, members) => some (categories.withValues (members.filterMap categories.value?))
    | none => categories.set? name

/-- The characters that are used with a script. -/
def scriptExtension? (name : String) : Option CharSet :=
  (scripts.value? name).map fun v =>
    let shared := Compact.whereValue (· != 0) sharedCode
    let own := Compact.whereValue
      (fun i => i != 0 && ((sharedScripts[i - 1]?).getD []).contains v) sharedCode
    ((scripts.withValues [v]).diff shared).union own

/-- The characters that had come by a version. -/
def age? (name : String) : Option CharSet :=
  (ages.value? name).map fun v => ages.withValues ((List.range v).map (· + 1))

/-! ## §3. Look-up -/

/-- The characters that have a binary property. -/
def binary? (name : String) : Option CharSet :=
  (binaryProperties.find? (·.names.contains name)).map (·.set)

/-- The characters that a name stands for. -/
def PropertyName.set? : PropertyName → Option CharSet
  | .plain name =>
    let name := looseName name
    (binary? name).or ((category? name).or (scripts.set? name))
  | .valued name value =>
    let value := looseName value
    match looseName name with
    | "gc" | "generalcategory" => category? value
    | "sc" | "script" => scripts.set? value
    | "scx" | "scriptextensions" => scriptExtension? value
    | "age" => age? value
    | "gcb" | "graphemeclusterbreak" => graphemeBreaks.set? value
    | "wb" | "wordbreak" => wordBreaks.set? value
    | "sb" | "sentencebreak" => sentenceBreaks.set? value
    | _ => none

end CodeAtlas.Pattern
