import Calculator.Pattern.CharSet

/-!
# Sets with a name

The sets that a pattern can name: general categories and groups of them, and classes of the
first 128 characters. Names of categories are read without regard to case, spaces, hyphens and
underscores.
-/

namespace Calculator.CharSet

/-- A name as names are compared; a leading `is` does not count. -/
def plainName (name : List Char) : String :=
  let named := match name with
    | i :: s :: rest => if i.toLower = 'i' ∧ s.toLower = 's' then rest else name
    | _ => name
  String.ofList
    ((named.filter fun c => c != ' ' && c != '_' && c != '-' && c.toNat < 0x80).map Char.toLower)

/-- The categories whose short name begins with the letter. -/
def categoriesUnder (letter : Char) : List Text.Category :=
  Text.Category.all.filter fun k => k.names.1.front == letter

def ofCategoryGroup? (name : String) : Option CharSet :=
  match name with
  | "any" => some all
  | "assigned" => some (.compl (.category .cn))
  | "ascii" => some (.range '\x00' '\x7f')
  | "l" | "letter" => some (ofCategories (categoriesUnder 'l'))
  | "lc" | "casedletter" => some (ofCategories [.lu, .ll, .lt])
  | "m" | "mark" | "combiningmark" => some (ofCategories (categoriesUnder 'm'))
  | "n" | "number" => some (ofCategories (categoriesUnder 'n'))
  | "p" | "punctuation" | "punct" => some (ofCategories (categoriesUnder 'p'))
  | "s" | "symbol" => some (ofCategories (categoriesUnder 's'))
  | "z" | "separator" => some (ofCategories (categoriesUnder 'z'))
  | "c" | "other" => some (ofCategories (categoriesUnder 'c'))
  | "digit" => some (.category .nd)
  | "cntrl" => some (.category .cc)
  | _ => none

/-- The set of a general category or a group of them. -/
def ofCategoryName? (name : List Char) : Option CharSet :=
  let name := plainName name
  match Text.Category.all.find? fun k => k.names.1 == name || k.names.2 == name with
  | some k => some (.category k)
  | none => ofCategoryGroup? name

/-- The set of the characters with a property that stands alone. -/
def ofPropertyName? (name : List Char) : Option CharSet :=
  match plainName name with
  | "whitespace" | "wspace" | "space" => some .blank
  | _ => ofCategoryName? name

/-- Is this the name of the property whose values are the general categories? -/
def isCategoryProperty (name : List Char) : Bool :=
  plainName name == "gc" || plainName name == "generalcategory"

/-- The classes of the first 128 characters, which are written `[:name:]`. -/
def ofAsciiName? (name : String) : Option CharSet :=
  match name with
  | "alnum" => some (ofRanges [('0', '9'), ('A', 'Z'), ('a', 'z')])
  | "alpha" => some (ofRanges [('A', 'Z'), ('a', 'z')])
  | "ascii" => some (.range '\x00' '\x7f')
  | "blank" => some (ofList ['\t', ' '])
  | "cntrl" => some (ofRanges [('\x00', '\x1f'), ('\x7f', '\x7f')])
  | "digit" => some (.range '0' '9')
  | "graph" => some (.range '!' '~')
  | "lower" => some (.range 'a' 'z')
  | "print" => some (.range ' ' '~')
  | "punct" => some (ofRanges [('!', '/'), (':', '@'), ('[', '\x60'), ('\x7b', '~')])
  | "space" => some (ofList ['\t', '\n', '\x0b', '\x0c', '\r', ' '])
  | "upper" => some (.range 'A' 'Z')
  | "word" => some (ofRanges [('0', '9'), ('A', 'Z'), ('_', '_'), ('a', 'z')])
  | "xdigit" => some (ofRanges [('0', '9'), ('A', 'F'), ('a', 'f')])
  | _ => none

end Calculator.CharSet
