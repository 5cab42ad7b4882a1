import Fabricate.Generator.Basic
import Fabricate.Name.Nearest

/-!
# Registries

A registry keeps generators under their canonical names and aliases for some of them, both in the
order of names. A name is looked up in normal form: without blanks around it, in small letters, with
underscores for dashes and blanks. Canonical names come before aliases, and a dotted name that is
not known stands for its last segment.
-/

namespace Fabricate

/-- Generators and the other names they go by. -/
structure Registry where
  generators : Directory Generator
  aliases : Directory String

namespace Registry

/-- The registry without generators. -/
def empty : Registry := ⟨[], []⟩

/-- Adds a generator, in place of one with the same canonical name. -/
def register (r : Registry) (g : Generator) : Registry :=
  { r with generators := r.generators.put g.id g }

/-- Adds an alias, unless its target is unknown or the alias is itself a canonical name. -/
def addAlias (r : Registry) (name target : String) : Registry :=
  if r.generators.has target && !r.generators.has name then
    { r with aliases := r.aliases.put name target }
  else r

/-- The normal form of a name. -/
def normalName (name : String) : List Char :=
  (Text.lower (Text.trim name.toList)).map fun c => if c = '-' || c = ' ' then '_' else c

/-- What follows the last dot, if there is one. -/
def lastSegment? (cs : List Char) : Option (List Char) :=
  if cs.contains '.' then some (cs.reverse.takeWhile (· ≠ '.')).reverse else none

/-- The generator with that canonical name. -/
def generator? (r : Registry) (id : String) : Option Generator :=
  r.generators.get? id

/-- The generator with that canonical name or alias. -/
def lookup? (r : Registry) (name : String) : Option Generator :=
  (r.generator? name).or ((r.aliases.get? name).bind r.generator?)

/-- The generator that a name in a template stands for. -/
def resolve? (r : Registry) (name : String) : Option Generator :=
  let normal := normalName name
  (r.lookup? (String.ofList normal)).or
    ((lastSegment? normal).bind fun segment => r.lookup? (String.ofList segment))

/-- The canonical names. -/
def ids (r : Registry) : List String :=
  r.generators.names

/-- At most `limit` of the known names near to a name. -/
def suggest (r : Registry) (name : String) (limit : Nat) : List String :=
  Name.nearest (String.ofList (normalName name)) (r.ids ++ r.aliases.names) limit

/-- What the catalog says of one generator. -/
structure Entry where
  name : String
  provider : String
  specs : List ParamSpec
  aliases : List String
  deriving DecidableEq

/-- The aliases of a canonical name. -/
def aliasesOf (r : Registry) (id : String) : List String :=
  (r.aliases.filter fun (_, target) => target = id).map Prod.fst

/-- All generators in the order of their names. -/
def catalog (r : Registry) : List Entry :=
  r.generators.map fun (_, g) => ⟨g.id, g.provider, g.specs, r.aliasesOf g.id⟩

/-- A declared parameter as JSON. -/
def specJson (spec : ParamSpec) : Json.Value :=
  .object
    [("key", .string spec.key),
      ("kind", .string spec.kind.name),
      ("required", .bool spec.required)]

/-- An entry of the catalog as JSON. -/
def Entry.toJson (e : Entry) : Json.Value :=
  .object
    [("name", .string e.name),
      ("provider", .string e.provider),
      ("params", .array (e.specs.map specJson)),
      ("aliases", .array (e.aliases.map .string))]

end Registry

end Fabricate
