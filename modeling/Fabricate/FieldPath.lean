import Fabricate.Decimal.Integer

/-!
# Field paths

The place of a value in a template, written with dots before keys and brackets around indexes: the
address of the first contact of a user is `user.contacts[0].address`. A path is kept as the text it
is shown as. The root has the empty text, so a step by an empty key from the root stays there.
-/

namespace Fabricate

/-- One step down into a template. -/
inductive Step where
  | key (name : String)
  | index (i : Nat)
  deriving DecidableEq

/-- A place in a template, as its text. -/
structure FieldPath where
  text : String
  deriving DecidableEq

namespace FieldPath

/-- The whole template. -/
def root : FieldPath := ⟨""⟩

/-- Whether the path is the root. -/
def isRoot (p : FieldPath) : Bool :=
  p.text.isEmpty

/-- The place of a field's value. -/
def key (p : FieldPath) (name : String) : FieldPath :=
  if p.isRoot then ⟨name⟩ else ⟨p.text ++ "." ++ name⟩

/-- The place of an item. -/
def index (p : FieldPath) (i : Nat) : FieldPath :=
  ⟨p.text ++ "[" ++ String.ofList (Decimal.ofNat i) ++ "]"⟩

/-- The place one step below. -/
def step (p : FieldPath) : Step → FieldPath
  | .key name => p.key name
  | .index i => p.index i

/-- The place reached from the root by a row of steps. -/
def ofSteps (steps : List Step) : FieldPath :=
  steps.foldl step root

/-- The name a reader sees; the root is called `template`. -/
def label (p : FieldPath) : String :=
  if p.isRoot then "template" else p.text

end FieldPath

end Fabricate
