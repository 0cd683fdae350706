import Phrasebook.Config.Reader
import Phrasebook.Proofs.JsonReaders

/-!
# Resource trees are ordered

Names are ascending at every level of a resource tree. This holds of the empty tree, insertion
keeps it, and it holds of every tree that is read, whatever order the text is in. Trees that carry
their order are a type of their own, since a tree of maps that carry it themselves would have to
mention its own nodes in their proofs.
-/
namespace Phrasebook

open NameMap

/-- The names of every group in a node are ascending. -/
inductive Node.Ordered : Node → Prop
  | text (phrase : String) : Ordered (.text phrase)
  | bool (b : Bool) : Ordered (.bool b)
  | number (n : Json.Number) : Ordered (.number n)
  | null : Ordered .null
  | group {children : NameMap Node} (ascending : children.Ascending)
      (each : ∀ child ∈ children, Ordered child.2) : Ordered (.group children)

namespace Node

mutual

def isOrdered : Node → Bool
  | group children => decide (NameMap.Ascending children) && eachIsOrdered children
  | _ => true

def eachIsOrdered : List (String × Node) → Bool
  | [] => true
  | (_, child) :: rest => isOrdered child && eachIsOrdered rest

end

mutual

theorem ordered_of_isOrdered {node : Node} (checked : node.isOrdered = true) : node.Ordered := by
  cases node with
  | text phrase => exact .text phrase
  | bool b => exact .bool b
  | number n => exact .number n
  | null => exact .null
  | group children =>
    simp only [isOrdered, Bool.and_eq_true, decide_eq_true_eq] at checked
    exact .group checked.1 (ordered_of_eachIsOrdered checked.2)

theorem ordered_of_eachIsOrdered {children : List (String × Node)}
    (checked : eachIsOrdered children = true) : ∀ child ∈ children, child.2.Ordered := by
  cases children with
  | nil => exact nofun
  | cons child rest =>
    simp only [eachIsOrdered, Bool.and_eq_true] at checked
    exact List.forall_mem_cons.mpr
      ⟨ordered_of_isOrdered checked.1, ordered_of_eachIsOrdered checked.2⟩

end

theorem isOrdered_of_ordered {node : Node} (ordered : node.Ordered) : node.isOrdered = true := by
  induction ordered with
  | @group children ascending each ih =>
    have all : eachIsOrdered children = true := by
      clear each ascending
      induction children with
      | nil => rfl
      | cons child rest ihRest =>
        obtain ⟨first, others⟩ := List.forall_mem_cons.mp ih
        simp [eachIsOrdered, first, ihRest others]
    simp [isOrdered, ascending, all]
  | _ => rfl

instance (node : Node) : Decidable node.Ordered :=
  decidable_of_iff (node.isOrdered = true) ⟨ordered_of_isOrdered, isOrdered_of_ordered⟩

end Node

def Resources.Ordered (r : Resources) : Prop :=
  OrderedOf (OrderedOf (OrderedOf Node.Ordered)) r.tree

instance (r : Resources) : Decidable r.Ordered :=
  inferInstanceAs (Decidable (OrderedOf (OrderedOf (OrderedOf Node.Ordered)) r.tree))

theorem Resources.ordered_empty : Resources.empty.Ordered :=
  orderedOf_nil _

/-- Insertion keeps the names at all levels ascending. -/
theorem Resources.ordered_insert {r : Resources} (ordered : r.Ordered)
    (locale space key text : String) : (r.insert locale space key text).Ordered := by
  have named : ∀ nodes : NameMap Node, OrderedOf Node.Ordered nodes →
      OrderedOf Node.Ordered (nodes.insert key (.text text)) :=
    fun nodes nodesOrdered => nodesOrdered.alter (.text text) fun _ _ => .text text
  have grown : ∀ spaces : NameMap (NameMap Node), OrderedOf (OrderedOf Node.Ordered) spaces →
      OrderedOf (OrderedOf Node.Ordered)
        (spaces.alter space fun nodes => NameMap.insert (nodes.getD []) key (.text text)) :=
    fun spaces spacesOrdered => spacesOrdered.alter (named [] (orderedOf_nil _)) named
  exact OrderedOf.alter ordered (grown [] (orderedOf_nil _)) grown

/-- A resource tree with ascending names at all levels. -/
structure OrderedResources extends Resources where
  ordered : toResources.Ordered

def OrderedResources.insert (r : OrderedResources) (locale space key text : String) :
    OrderedResources where
  toResources := r.toResources.insert locale space key text
  ordered := Resources.ordered_insert r.ordered locale space key text

/-! Reading. -/

namespace Node

mutual

theorem ordered_ofJson? {json : Json} {node : Node} (given : ofJson? json = some node) :
    node.Ordered := by
  cases json with
  | null => cases given; exact .null
  | bool b => cases given; exact .bool b
  | number n => cases given; exact .number n
  | string s => cases given; exact .text s
  | array items => cases given
  | object members =>
    simp only [ofJson?, Option.bind_eq_bind, Option.bind_eq_some_iff] at given
    obtain ⟨children, readChildren, same⟩ := given
    cases same
    have ordered := orderedOf_ofList (ordered_groupOfJson? readChildren)
    exact .group ordered.ascending ordered.each

theorem ordered_groupOfJson? {members : List (String × Json)} {children : List (String × Node)}
    (given : groupOfJson? members = some children) : ∀ child ∈ children, child.2.Ordered := by
  cases members with
  | nil =>
    cases given
    exact nofun
  | cons member rest =>
    simp only [groupOfJson?, Option.bind_eq_bind, Option.bind_eq_some_iff] at given
    obtain ⟨node, readNode, others, readOthers, same⟩ := given
    cases same
    exact List.forall_mem_cons.mpr ⟨ordered_ofJson? readNode, ordered_groupOfJson? readOthers⟩

end

theorem gives_reader (depth : Nat) : (Node.reader depth).Gives Ordered := by
  intro s node rest done
  obtain ⟨⟨json, behind⟩, -, done⟩ := bind_eq_ok done
  cases given : ofJson? json with
  | none => simp [given] at done
  | some found =>
    simp only [given] at done
    cases done
    exact ordered_ofJson? given

end Node

/-- What holds of all nodes that are read holds at the ordered leaves of every tree. -/
theorem Resources.gives_reader {P : Node → Prop} {depth : Nat}
    (gives : (Node.reader (depth - 3)).Gives P) :
    (Resources.reader depth).Gives fun r => OrderedOf (OrderedOf (OrderedOf P)) r.tree := by
  intro s r rest done
  obtain ⟨⟨tree, behind⟩, read, done⟩ := bind_eq_ok done
  cases done
  exact Json.gives_mapOf (Json.gives_mapOf (Json.gives_mapOf gives)) read

namespace Config

open Json

variable {P : Resources → Prop}

/-- The resources of a draft satisfy `P`, if it has any yet. -/
def Draft.Keeps (P : Resources → Prop) (draft : Draft) : Prop :=
  ∀ r ∈ draft.resources?, P r

theorem gives_fieldOnce {α : Type} {P : α → Prop} {reader : Reader α} (gives : reader.Gives P)
    (name : String) (earlier : Option α) : (fieldOnce name earlier reader).Gives P := by
  intro s a rest done
  unfold fieldOnce at done
  split at done
  · cases done
  · obtain ⟨behind, -, done⟩ := bind_eq_ok done
    exact gives done

theorem gives_member (gives : resourcesField.Gives P) {draft : Draft} (kept : draft.Keeps P)
    (name : String) : (member draft name).Gives (Draft.Keeps P) := by
  intro s after rest done
  unfold member at done
  split at done
  · obtain ⟨⟨found, behind⟩, read, done⟩ := bind_eq_ok done
    cases done
    rintro r ⟨⟩
    exact gives_fieldOnce gives _ _ read
  -- The other four fields leave the resources alone, and so do members that are skipped.
  iterate 4
    · obtain ⟨_, -, done⟩ := bind_eq_ok done
      cases done
      exact kept
  · obtain ⟨_, -, done⟩ := bind_eq_ok done
    obtain ⟨_, -, done⟩ := bind_eq_ok done
    cases done
    exact kept

/-- What every reading of resources gives, the draft keeps from member to member. -/
theorem gives_membersInto (gives : resourcesField.Gives P) (bound : Nat) (first : Bool)
    {draft : Draft} (kept : draft.Keeps P) :
    (membersInto bound first draft).Gives (Draft.Keeps P) := by
  induction bound generalizing first draft with
  | zero => exact nofun
  | succ bound ih =>
    intro s after rest done
    rw [membersInto] at done
    obtain ⟨⟨name?, behind⟩, -, done⟩ := bind_eq_ok done
    cases name? with
    | none =>
      cases done
      exact kept
    | some name =>
      obtain ⟨⟨grown, behind⟩, read, done⟩ := bind_eq_ok done
      exact ih false (gives_member gives kept name read) done

theorem gives_slot {α : Type} {P : α → Prop} {reader : Reader α} (gives : reader.Gives P)
    (first : Bool) : (slot reader first).Gives fun found => ∀ a ∈ found, P a := by
  intro s found rest done
  obtain ⟨⟨more, behind⟩, -, done⟩ := bind_eq_ok done
  cases more with
  | false =>
    cases done
    exact nofun
  | true =>
    obtain ⟨⟨a, behind⟩, read, done⟩ := bind_eq_ok done
    cases done
    rintro a ⟨⟩
    exact gives read

theorem gives_arrayBody (gives : resourcesField.Gives P) : arrayBody.Gives (Draft.Keeps P) := by
  intro s draft rest done
  obtain ⟨⟨resources?, _⟩, read, done⟩ := bind_eq_ok done
  obtain ⟨⟨defaultLocale?, _⟩, -, done⟩ := bind_eq_ok done
  obtain ⟨⟨defaultNamespace?, _⟩, -, done⟩ := bind_eq_ok done
  obtain ⟨⟨escapesValues?, _⟩, -, done⟩ := bind_eq_ok done
  obtain ⟨⟨fallbackLocales?, _⟩, -, done⟩ := bind_eq_ok done
  obtain ⟨_, -, done⟩ := bind_eq_ok done
  cases done
  exact gives_slot gives true read

theorem Draft.Keeps.finish (empty : P .empty) {draft : Draft} (kept : draft.Keeps P) :
    P draft.finish.resources := by
  cases given : draft.resources? with
  | none => simpa [Draft.finish, given] using empty
  | some r => simpa [Draft.finish, given] using kept r given

/-- What holds of the empty resources and of all that are read holds of the resources of every
configuration that is read. -/
theorem gives_reader (empty : P .empty) (gives : resourcesField.Gives P) :
    reader.Gives fun config => P config.resources := by
  intro s config rest done
  obtain ⟨⟨draft, behind⟩, read, done⟩ := bind_eq_ok done
  cases done
  refine Draft.Keeps.finish empty ?_
  split at read
  · exact gives_arrayBody gives read
  · have nothingYet : Draft.Keeps P {} := by
      intro r given
      cases given
    exact gives_membersInto gives _ true nothingYet read
  · cases read

/-- The resources of every configuration that is read are ordered. -/
theorem ordered_of_read {text : String} {config : Config} (done : read text = .ok config) :
    config.resources.Ordered :=
  gives_whole (gives_reader Resources.ordered_empty (Resources.gives_reader (Node.gives_reader _)))
    done

end Config

end Phrasebook
