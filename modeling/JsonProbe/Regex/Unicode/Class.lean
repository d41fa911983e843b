import JsonProbe.Regex.CharSet
import JsonProbe.Regex.Unicode.Word
import JsonProbe.Regex.Unicode.CaseFold
import JsonProbe.Regex.Unicode.GeneralCategory
import JsonProbe.Regex.Unicode.Script
import JsonProbe.Regex.Unicode.Property
import JsonProbe.Regex.Unicode.Age
import JsonProbe.Regex.Unicode.Break
import JsonProbe.Regex.Unicode.Names
import JsonProbe.Text.Blank
/-!
# Unicode classes by name

What `\p{...}` names, as a set of characters. Names are compared after normalization: a leading
`is` is dropped, ASCII letters are lowered, and spaces, underscores, hyphens and non-ASCII
characters are removed.

A single name is tried as a binary property, then as a general category, then as a script. The
names `cf`, `sc` and `lc` are not tried as properties, so that they stay the general categories
Format, Currency_Symbol and Cased_Letter. A name with a value selects a general category, a script,
a script extension, an age (every character assigned by that version), or a value of a break
property.
-/

set_option autoImplicit false

namespace JsonProbe.Regex.Unicode

/-- A name in normalized form. -/
def normalizeName (name : String) : String :=
  let cs := name.toList
  let (startsWithIs, body) :=
    match cs with
    | a :: b :: rest => if (a == 'i' || a == 'I') && (b == 's' || b == 'S') then (true, rest) else (false, cs)
    | _ => (false, cs)
  let kept := body.filterMap fun c =>
    if c == ' ' || c == '_' || c == '-' then none
    else if 'A' ≤ c && c ≤ 'Z' then some (Char.ofNat (c.toNat + 32))
    else if c.toNat ≤ 0x7F then some c
    else none
  if startsWithIs && kept == ['c'] then "isc" else String.ofList kept

/-- Why a name gives no class. -/
inductive LookupError where
  | propertyNotFound
  | propertyValueNotFound
  deriving DecidableEq, Repr

/-- The set a table gives a name. -/
def tableSet? (table : List (String × String)) (name : String) : Option CharSet :=
  (table.lookup name).map CharSet.ofText

/-- The union of the sets a table gives some names. -/
def tableUnion (table : List (String × String)) (names : List String) : CharSet :=
  names.foldl (fun acc n => acc.union ((tableSet? table n).getD CharSet.empty)) CharSet.empty

/-- The characters of a general category or group, by long name. Besides the table, ASCII, Any
and Assigned (every character not Unassigned) are groups. -/
def generalCategory (name : String) : Except LookupError CharSet :=
  if name == "ASCII" then .ok (CharSet.range 0 0x7F)
  else if name == "Any" then .ok (CharSet.range 0 CharSet.maxCodePoint)
  else if name == "Assigned" then
    .ok (tableUnion generalCategoryRanges ["Unassigned"]).complement
  else
    match tableSet? generalCategoryRanges name with
    | some s => .ok s
    | none => .error .propertyValueNotFound

/-- The long name of a general category, from a normalized alias. -/
def canonicalGeneralCategory? (norm : String) : Option String :=
  if norm == "any" then some "Any"
  else if norm == "assigned" then some "Assigned"
  else if norm == "ascii" then some "ASCII"
  else generalCategoryNames.lookup norm

/-- The characters of `\w`: word characters. -/
def perlWord : CharSet := CharSet.ofText wordRanges

/-- The characters of `\d`: decimal numbers. -/
def perlDigit : CharSet := tableUnion generalCategoryRanges ["Decimal_Number"]

/-- The characters of `\s`: White_Space. -/
def perlSpace : CharSet := CharSet.ofRanges Blank.ranges

/-- The characters of a binary property, by long name. -/
def binaryProperty (name : String) : Except LookupError CharSet :=
  match tableSet? propertyRanges name with
  | some s => .ok s
  | none => .error .propertyNotFound

/-- The characters of a script, by long name. -/
def script (name : String) : Except LookupError CharSet :=
  match tableSet? scriptRanges name with
  | some s => .ok s
  | none => .error .propertyValueNotFound

/-- The characters a single name stands for. -/
def binaryClass (name : String) : Except LookupError CharSet :=
  let norm := normalizeName name
  let asProperty :=
    if norm == "cf" || norm == "sc" || norm == "lc" then none else propertyNames.lookup norm
  match asProperty with
  | some canon => binaryProperty canon
  | none =>
    match canonicalGeneralCategory? norm with
    | some canon => generalCategory canon
    | none =>
      match scriptNames.lookup norm with
      | some canon => script canon
      | none => .error .propertyNotFound

/-- The characters of every version up to and including the one named. -/
def age (name : String) : Except LookupError CharSet :=
  let rec go : List (String × String) → CharSet → Except LookupError CharSet
    | [], _ => .error .propertyValueNotFound
    | (v, text) :: rest, acc =>
      let acc := acc.union (CharSet.ofText text)
      if v == name then .ok acc else go rest acc
  go ageRanges CharSet.empty

/-- The characters a property with a value stands for. -/
def valueClass (property value : String) : Except LookupError CharSet :=
  let value := normalizeName value
  let byTable (names table : List (String × String)) : Except LookupError CharSet :=
    match names.lookup value with
    | none => .error .propertyValueNotFound
    | some canon =>
      match tableSet? table canon with
      | some s => .ok s
      | none => .error .propertyValueNotFound
  match propertyNames.lookup (normalizeName property) with
  | none => .error .propertyNotFound
  | some "General_Category" =>
    match canonicalGeneralCategory? value with
    | some canon => generalCategory canon
    | none => .error .propertyValueNotFound
  | some "Script" =>
    match scriptNames.lookup value with
    | some canon => script canon
    | none => .error .propertyValueNotFound
  | some "Script_Extensions" => byTable scriptNames scriptExtensionRanges
  | some "Age" =>
    match ageNames.lookup value with
    | some canon => age canon
    | none => .error .propertyValueNotFound
  | some "Grapheme_Cluster_Break" => byTable graphemeClusterBreakNames graphemeClusterBreakRanges
  | some "Word_Break" => byTable wordBreakNames wordBreakRanges
  | some "Sentence_Break" => byTable sentenceBreakNames sentenceBreakRanges
  | some _ => .error .propertyValueNotFound

/-- The orbits of simple case folding, each as a list of code points. -/
def orbits : List (List Nat) :=
  (caseFoldOrbits.toList.splitOn ',').map fun orbit =>
    ((orbit.splitOn ' ').filter fun w => !w.isEmpty).map CharSet.hexValue

/-- The set with every character that simple case folding makes equal to one of its members. -/
def caseFold (s : CharSet) : CharSet := s.foldWith orbits

/-- Whether simple case folding makes the character equal to another. -/
def hasFold (c : Nat) : Bool := orbits.any fun o => o.contains c

end JsonProbe.Regex.Unicode
