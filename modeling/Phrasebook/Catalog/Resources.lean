import Phrasebook.Json.Printer
import Phrasebook.Json.Typed

/-!
# Resource trees

Resources give texts by locale, namespace and key. A key is a dotted path of names: groups nest,
and a name may hold dots itself, so several leaves can have one key. Booleans and numbers count as
the texts of their JSON forms, and a null leaf defines nothing.
-/
namespace Phrasebook

/-- A leaf or a group of a resource tree. -/
inductive Node where
  | text (text : String)
  | bool (b : Bool)
  | number (n : Json.Number)
  | group (children : List (String × Node))
  | null
  deriving Repr

namespace Node

mutual

def same : Node → Node → Bool
  | text s, text t => s = t
  | bool a, bool b => a = b
  | number m, number n => m = n
  | group children, group others => sameGroup children others
  | null, null => true
  | _, _ => false

def sameGroup : List (String × Node) → List (String × Node) → Bool
  | [], [] => true
  | (name, child) :: rest, (name', other) :: rest' =>
    name = name' && same child other && sameGroup rest rest'
  | _, _ => false

end

mutual

theorem same_iff (node other : Node) : node.same other = true ↔ node = other := by
  cases node with
  | group children =>
    have below := sameGroup_iff children
    cases other <;> simp [same, below]
  | _ => cases other <;> simp [same]

theorem sameGroup_iff (children others : List (String × Node)) :
    sameGroup children others = true ↔ children = others := by
  match children, others with
  | [], [] | [], _ :: _ | _ :: _, [] => simp [sameGroup]
  | (name, child) :: rest, (name', other) :: rest' =>
    have first := same_iff child other
    have later := sameGroup_iff rest rest'
    simp [sameGroup, first, later]

end

instance : DecidableEq Node := fun node other => decidable_of_iff _ (same_iff node other)

end Node

/-- A text of a resource tree, with the names that lead to it. -/
structure Phrase where
  locale : String
  space : String
  key : String
  text : String
  deriving DecidableEq, Repr

/-- Resource trees: nodes by locale, namespace and name. -/
structure Resources where
  tree : NameMap (NameMap (NameMap Node))
  deriving DecidableEq, Repr

namespace Node

mutual

/-- The texts of a node that stands under `key`, with their full keys. -/
def texts (key : String) : Node → List (String × String)
  | text phrase => [(key, phrase)]
  | bool b => [(key, if b then "true" else "false")]
  | number n => [(key, String.ofList n.write)]
  | group children => groupTexts key children
  | null => []

def groupTexts (key : String) : List (String × Node) → List (String × String)
  | [] => []
  | (name, child) :: rest => texts (key ++ "." ++ name) child ++ groupTexts key rest

end

mutual

def toJson : Node → Json
  | text phrase => .string phrase
  | bool b => .bool b
  | number n => .number n
  | group children => .object (groupToJson children)
  | null => .null

def groupToJson : List (String × Node) → List (String × Json)
  | [] => []
  | (name, child) :: rest => (name, toJson child) :: groupToJson rest

end

mutual

/-- The node of a JSON value; there is none when it holds an array anywhere. -/
def ofJson? : Json → Option Node
  | .null => some null
  | .bool b => some (bool b)
  | .number n => some (number n)
  | .string s => some (text s)
  | .array _ => none
  | .object members => do return group (NameMap.ofList (← groupOfJson? members))

def groupOfJson? : List (String × Json) → Option (List (String × Node))
  | [] => some []
  | (name, value) :: rest => do return (name, ← ofJson? value) :: (← groupOfJson? rest)

end

/-- Reads a node that nests at most `depth` containers. The whole value is read before it is
refused, so a fault inside it wins, and the refusal is placed behind the object around it. -/
def reader (depth : Nat) : Json.Reader Node := fun s => do
  let (found, rest) ← Json.value depth s
  match ofJson? found with
  | some node => return (node, rest)
  | none => throw (.before (Json.behindClose rest) (.noAlternative "ResourceNode"))

end Node

namespace Resources

def empty : Resources := ⟨[]⟩

def isEmpty (r : Resources) : Bool := r.tree.isEmpty

def locales (r : Resources) : List String := r.tree.keys

/-- Lets a name of a namespace stand for one text, whatever it stood for before. -/
def insert (r : Resources) (locale space key text : String) : Resources :=
  ⟨r.tree.alter locale fun spaces =>
    NameMap.alter space (fun nodes => NameMap.insert (nodes.getD []) key (.text text))
      (spaces.getD [])⟩

/-- Every text of the tree, in the order of the names that lead to it. -/
def phrases (r : Resources) : List Phrase :=
  r.tree.flatMap fun (locale, spaces) =>
    spaces.flatMap fun (space, nodes) =>
      nodes.flatMap fun (name, node) =>
        (node.texts name).map fun (key, text) => ⟨locale, space, key, text⟩

def toJson (r : Resources) : Json :=
  .object <| r.tree.map fun (locale, spaces) =>
    (locale, .object <| spaces.map fun (space, nodes) =>
      (space, .object <| nodes.map fun (name, node) => (name, node.toJson)))

/-- Reads a resource tree that nests at most `depth` containers, of which the three levels of names
take up three. -/
def reader (depth : Nat) : Json.Reader Resources := fun s => do
  let (tree, rest) ← Json.mapOf (Json.mapOf (Json.mapOf (Node.reader (depth - 3)))) s
  return (⟨tree⟩, rest)

def read (text : String) : Except Json.Fault Resources :=
  Json.whole (reader Json.depthLimit) text

end Resources

end Phrasebook
