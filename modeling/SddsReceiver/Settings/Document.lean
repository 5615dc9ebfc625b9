import SddsReceiver.Settings.Plain

/-!
# Documents of settings

A document is a tree of scalars, sequences and mappings. A scalar either comes with its kind
or is a text whose meaning depends on how it was written. A node may stand for another one
by its number; numbers that were given out again mean the later node.

Reading is by the kind that is wanted, so an unquoted `5` serves as a number and as a text,
and a quoted one only as a text. An empty node serves as an empty record or list.
-/
namespace SddsReceiver.Settings

/-- How a scalar was written. -/
inductive ScalarStyle where
  | plain
  | singleQuoted
  | doubleQuoted
  /-- An indented block that keeps its lines. -/
  | literal
  /-- An indented block that folds its lines. -/
  | folded
  deriving DecidableEq, Repr

inductive Scalar where
  | null
  | bool (value : Bool)
  | integer (value : Int)
  | decimal (value : Float)
  | text (value : String)
  | written (source : String) (style : ScalarStyle) (tag : Option String)
  deriving Repr, Inhabited

inductive Node where
  | scalar (value : Scalar)
  | alias (number : Nat)
  | sequence (items : List Node)
  | mapping (entries : List (Node × Node))
  deriving Repr, Inhabited

structure Document where
  /-- Absent when the document holds nothing at all. -/
  root : Option Node
  /-- Numbered nodes, the latest first. -/
  anchors : List (Nat × Node)
  /-- A record may be written as the list of its fields in order. -/
  positional : Bool
  deriving Repr

/-- Tags of the kinds that a block of text may claim to be. -/
def boolTag : String := "tag:yaml.org,2002:bool"
def integerTag : String := "tag:yaml.org,2002:int"
def decimalTag : String := "tag:yaml.org,2002:float"
def nullTag : String := "tag:yaml.org,2002:null"

namespace Scalar

/-- The text of a scalar that may be read as a kind with this tag. -/
def bareText? (tag : String) : Scalar → Option String
  | written source .plain _ => some source
  | written source .literal (some given) => if given == tag then some source else none
  | _ => none

def bool? : Scalar → Option Bool
  | bool value => some value
  | s => (s.bareText? boolTag).bind Plain.bool?

/-- A whole number from zero up to a limit. -/
def unsigned? (limit : Nat) (s : Scalar) : Option Nat :=
  let number := match s with
    | integer value => if 0 ≤ value then some value.toNat else none
    | s => (s.bareText? integerTag).bind Plain.unsigned?
  number.filter (· ≤ limit)

/-- A whole number between two limits. -/
def signed? (least greatest : Int) (s : Scalar) : Option Int :=
  let number := match s with
    | integer value => some value
    | s => (s.bareText? integerTag).bind Plain.signed?
  number.filter fun n => decide (least ≤ n) && decide (n ≤ greatest)

def decimal? : Scalar → Option Float
  | decimal value => some value
  | s => (s.bareText? decimalTag).bind Plain.decimal?

def text? : Scalar → Option String
  | text value => some value
  | written source _ _ => some source
  | _ => none

/-- An unquoted empty text. -/
def isEmpty : Scalar → Bool
  | written source .plain _ => source.isEmpty
  | _ => false

end Scalar

namespace Document

/-- The node that a node stands for. -/
def resolve (d : Document) : Node → Node
  | .alias number => (d.anchors.lookup number).getD (.alias number)
  | node => node

def scalar? (d : Document) (node : Node) : Option Scalar :=
  match d.resolve node with
  | .scalar value => some value
  | _ => none

/-- The text of a node that names a field. -/
def key? (d : Document) (node : Node) : Option String :=
  (d.scalar? node).bind Scalar.text?

/-- The items of a list. -/
def items? (d : Document) (node : Node) : Option (List Node) :=
  match d.resolve node with
  | .sequence items => some items
  | .scalar value => if value.isEmpty then some [] else none
  | _ => none

/-- The entries with a known name, each of them once; a foreign name is passed over or, in a
strict record, refused. -/
def knownEntries? (d : Document) (names : List String) (strict : Bool) :
    List (Node × Node) → Option (List (String × Node))
  | [] => some []
  | (keyNode, value) :: entries => do
      let key ← d.key? keyNode
      let known ← d.knownEntries? names strict entries
      if names.contains key then
        if (known.lookup key).isSome then none else some ((key, value) :: known)
      else if strict then none
      else some known

/-- The fields of a record by their names. -/
def fields? (d : Document) (names : List String) (strict : Bool) :
    Option Node → Option (List (String × Node))
  | none => some []
  | some node =>
      match d.resolve node with
      | .mapping entries => d.knownEntries? names strict entries
      | .scalar value => if value.isEmpty then some [] else none
      | .sequence items =>
          if d.positional && items.length ≤ names.length then some (names.zip items) else none
      | .alias _ => none

/-- A field's value, or a default where the record leaves it out. -/
def field? {α : Type} (fields : List (String × Node)) (name : String) (default : α)
    (read : Node → Option α) : Option α :=
  match fields.lookup name with
  | none => some default
  | some node => read node

/-- A field's value in a record that must have it. -/
def required? {α : Type} (fields : List (String × Node)) (name : String)
    (read : Node → Option α) : Option α :=
  (fields.lookup name).bind read

def bool? (d : Document) (node : Node) : Option Bool :=
  (d.scalar? node).bind Scalar.bool?

def unsigned? (d : Document) (limit : Nat) (node : Node) : Option Nat :=
  (d.scalar? node).bind (Scalar.unsigned? limit)

def signed? (d : Document) (least greatest : Int) (node : Node) : Option Int :=
  (d.scalar? node).bind (Scalar.signed? least greatest)

def decimal? (d : Document) (node : Node) : Option Float :=
  (d.scalar? node).bind Scalar.decimal?

def text? (d : Document) (node : Node) : Option String :=
  (d.scalar? node).bind Scalar.text?

end Document

end SddsReceiver.Settings
