import KernelStats.Pattern.CharSet
import KernelStats.Unicode.Script
import KernelStats.Unicode.ScriptExtensions

/-!
# Named properties of characters

`CharSet.ofProperty?` finds the set that a property name, or a property name with a value, stands for.
Names are compared in small letters without separators and without a leading `is`.
-/

namespace KernelStats.Pattern

/-- The form in which property names are compared. Of the names with a leading `is` only `isc` keeps
it. -/
def normalName (name : List Char) : String :=
  let plain (cs : List Char) : List Char :=
    (cs.filter fun c => c.toNat < 0x80 && c != ' ' && c != '_' && c != '-').map Char.toLower
  match name with
  | i :: s :: rest =>
    if (i == 'i' || i == 'I') && (s == 's' || s == 'S') then
      if plain rest == ['c'] then "isc" else .ofList (plain rest)
    else .ofList (plain name)
  | _ => .ofList (plain name)

namespace CharSet

def unionAll (sets : List CharSet) : CharSet := sets.foldr union empty

def ofCategory? (name : String) : Option CharSet :=
  match name with
  | "any" => some all
  | "ascii" => some (range 0 0x7F)
  | "assigned" => (Unicode.category? "cn").map fun ranges => compl (unionAll (ranges.map listed))
  | _ => (Unicode.category? name).map fun ranges => unionAll (ranges.map listed)

def ofScript? (name : String) : Option CharSet :=
  (Unicode.Property.find? Unicode.scripts name).map listed

def ofBinary? (name : String) : Option CharSet :=
  if name == "cf" || name == "sc" || name == "lc" then none
  else (Unicode.Property.find? Unicode.binaryProperties name).map listed

def ofName? (name : String) : Option CharSet :=
  ofBinary? name <|> ofCategory? name <|> ofScript? name

def ofValue? (property value : String) : Option CharSet :=
  match property with
  | "gc" | "generalcategory" => ofCategory? value
  | "sc" | "script" => ofScript? value
  | "scx" | "scriptextensions" => (Unicode.Property.find? Unicode.scriptExtensions value).map listed
  | _ => none

def splitValue : List Char → List Char → Option (List Char × Bool × List Char)
  | _, [] => none
  | name, '!' :: '=' :: value => some (name.reverse, true, value)
  | name, c :: rest => splitValue (c :: name) rest

def dividedAt (mark : Char) (text : List Char) : Option (List Char × Bool × List Char) :=
  if text.contains mark then
    some (text.takeWhile (· != mark), false, (text.dropWhile (· != mark)).drop 1)
  else none

def ofProperty? (text : List Char) : Option (CharSet × Bool) :=
  match splitValue [] text <|> dividedAt ':' text <|> dividedAt '=' text with
  | some (name, missed, value) =>
    (ofValue? (normalName name) (normalName value)).map fun s => (s, missed)
  | none => (ofName? (normalName text)).map fun s => (s, false)

end CharSet

end KernelStats.Pattern
