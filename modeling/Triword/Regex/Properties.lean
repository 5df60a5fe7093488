import Triword.Regex.CharSet
import Triword.Regex.Unicode.Ages
import Triword.Regex.Unicode.Binary
import Triword.Regex.Unicode.Breaks
import Triword.Regex.Unicode.Categories
import Triword.Regex.Unicode.Scripts
import Triword.Text.Occurrence

/-!
Properties of characters, by which regular expressions name sets. What they are differs between the versions
of Unicode, so expressions are read with any table of them; the standard one is that of version 16.
-/

namespace Triword.Regex

inductive Property where
  | named (name : String)
  | valued (property value : String)

def Property.ofText (cs : List Char) : Property :=
  match [['!', '='], [':'], ['=']].findSome? (Text.splitAtFirst? · cs) with
  | some (property, value) => .valued (String.ofList property) (String.ofList value)
  | none => .named (String.ofList cs)

abbrev Properties := Property → Option CharSet

namespace Properties

/-- Only characters of ASCII tell names apart, without case, blanks, dashes, low lines and `is` in front. -/
def plainName (name : String) : String :=
  let cs := name.toList
  let isPrefixed := (cs.take 2).map Char.toLower == ['i', 's']
  let kept := (if isPrefixed then cs.drop 2 else cs).filter fun c =>
    decide (c.toNat < 0x80) && decide (c ∉ ['_', '-', ' '])
  -- There is a property with the name `isc`, while `c` is a category.
  String.ofList (if isPrefixed && kept.map Char.toLower == ['c'] then ['i', 's', 'c'] else kept.map Char.toLower)

/-- The edges of a set from the numbers between them, which are written in base sixteen. -/
def edgesOfGaps (edge gap : Nat) : List Char → List Nat
  | [] => [edge + gap]
  | c :: cs =>
    if c = ' ' then (edge + gap) :: edgesOfGaps (edge + gap) 0 cs
    else edgesOfGaps edge (gap * 16 + if c.isDigit then c.toNat - '0'.toNat else c.toNat - 'A'.toNat + 10) cs

def ofGaps (rows : List String) : CharSet :=
  ⟨edgesOfGaps 0 0 (" ".intercalate rows).toList⟩

def find? (table : List (List String × List String)) (name : String) : Option CharSet :=
  (table.find? fun entry => entry.1.contains name).map fun entry => ofGaps entry.2

/-- The categories that are made up of others. -/
def unions : List (List String × List String) :=
  [(["c", "other"], ["cc", "cf", "cn", "co"]),
   (["l", "letter"], ["lu", "ll", "lt", "lm", "lo"]),
   (["lc", "casedletter"], ["lu", "ll", "lt"]),
   (["m", "mark", "combiningmark"], ["mc", "me", "mn"]),
   (["n", "number"], ["nd", "nl", "no"]),
   (["p", "punctuation", "punct"], ["pc", "pd", "pe", "pf", "pi", "po", "ps"]),
   (["s", "symbol"], ["sc", "sk", "sm", "so"]),
   (["z", "separator"], ["zl", "zp", "zs"])]

def category? (name : String) : Option CharSet :=
  match name with
  | "any" => some CharSet.empty.compl
  | "ascii" => some (.range 0 0x7F)
  | "assigned" => (find? Unicode.categories "cn").map CharSet.compl
  | name =>
    match unions.find? fun u => u.1.contains name with
    | some u => some ((u.2.filterMap (find? Unicode.categories)).foldl CharSet.union .empty)
    | none => find? Unicode.categories name

/-- The characters that have come with a version or before it. -/
def age? (name : String) : Option CharSet :=
  (Unicode.ages.findIdx? fun age => age.1.contains name).map fun i =>
    (Unicode.ages.take (i + 1)).foldl (fun s age => s.union (ofGaps age.2)) .empty

def script? (name : String) : Option CharSet :=
  find? Unicode.scripts name

def valuesOf : List (List String × (String → Option CharSet)) :=
  [(["gc", "generalcategory"], category?),
   (["sc", "script"], script?),
   (["scx", "scriptextensions"], fun name => find? Unicode.extensions name <|> script? name),
   (["age"], age?),
   (["gcb", "graphemeclusterbreak"], find? Unicode.graphemeBreaks),
   (["wb", "wordbreak"], find? Unicode.wordBreaks),
   (["sb", "sentencebreak"], find? Unicode.sentenceBreaks)]

def standard : Properties
  | .named name =>
    let name := plainName name
    find? Unicode.binary name <|> category? name <|> script? name
  | .valued property value =>
    (valuesOf.find? fun p => p.1.contains (plainName property)).bind fun p => p.2 (plainName value)

end Properties

end Triword.Regex
