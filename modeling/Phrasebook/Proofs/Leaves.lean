import Phrasebook.Proofs.CatalogGrowth
import Phrasebook.Proofs.OrderedResources

/-!
# The leaves of resource trees

A leaf is found by following the names of its path. Its key is the path with dots between the
names, so several paths can lead to one key. The phrases of a tree are its leaves in the order of
their paths, compared name by name; hence a catalog holds for every key the text of the smallest
path.
-/
namespace Phrasebook

open NameMap

/-- The key that a path of names gives. -/
def dotted (path : List String) : String :=
  ".".intercalate path

@[simp] theorem dotted_singleton (name : String) : dotted [name] = name :=
  String.intercalate_singleton

@[simp] theorem dotted_cons_cons (name next : String) (rest : List String) :
    dotted (name :: next :: rest) = name ++ "." ++ dotted (next :: rest) :=
  String.intercalate_cons_cons

/-- The first two names of a path can be joined beforehand. -/
theorem dotted_join (name next : String) (rest : List String) :
    dotted ((name ++ "." ++ next) :: rest) = dotted (name :: next :: rest) := by
  cases rest with
  | nil => simp
  | cons third rest => simp [String.append_assoc]

namespace Node

def leafAt? : Node → List String → Option String
  | text phrase, [] => some phrase
  | bool b, [] => some (if b then "true" else "false")
  | number n, [] => some (String.ofList n.write)
  | group children, name :: rest =>
    match NameMap.get? children name with
    | some child => child.leafAt? rest
    | none => none
  | _, _ => none

mutual

def leaves : Node → List (List String × String)
  | text phrase => [([], phrase)]
  | bool b => [([], if b then "true" else "false")]
  | number n => [([], String.ofList n.write)]
  | group children => groupLeaves children
  | null => []

def groupLeaves : List (String × Node) → List (List String × String)
  | [] => []
  | (name, child) :: rest =>
    (leaves child).map (fun leaf => (name :: leaf.1, leaf.2)) ++ groupLeaves rest

end

theorem groupLeaves_eq_flatMap (children : NameMap Node) :
    groupLeaves children =
      children.flatMap fun child => child.2.leaves.map fun leaf => (child.1 :: leaf.1, leaf.2) := by
  induction children with
  | nil => rfl
  | cons child rest ih => rw [groupLeaves, List.flatMap_cons, ih]

mutual

/-- The texts of a node are its leaves under the dotted keys of their paths. -/
theorem texts_eq_leaves (key : String) (node : Node) :
    node.texts key = node.leaves.map fun leaf => (dotted (key :: leaf.1), leaf.2) := by
  cases node with
  | text phrase => simp [texts, leaves]
  | bool b => simp [texts, leaves]
  | number n => simp [texts, leaves]
  | null => rfl
  | group children => exact groupTexts_eq_leaves key children

theorem groupTexts_eq_leaves (key : String) (children : List (String × Node)) :
    groupTexts key children =
      (groupLeaves children).map fun leaf => (dotted (key :: leaf.1), leaf.2) := by
  cases children with
  | nil => rfl
  | cons child rest =>
    rw [groupTexts, groupLeaves, texts_eq_leaves, groupTexts_eq_leaves key rest]
    simp [dotted_join, Function.comp_def]

end

/-- In an ordered node the leaves are the texts that paths lead to. -/
theorem mem_leaves_iff {node : Node} (ordered : node.Ordered) (path : List String)
    (text : String) : (path, text) ∈ node.leaves ↔ node.leafAt? path = some text := by
  induction ordered generalizing path with
  | text phrase => cases path <;> simp [leaves, leafAt?, eq_comm]
  | bool b => cases path <;> simp [leaves, leafAt?, eq_comm]
  | number n => cases path <;> simp [leaves, leafAt?, eq_comm]
  | null => cases path <;> simp [leaves, leafAt?]
  | @group children ascending each ih =>
    rw [leaves, groupLeaves_eq_flatMap, List.mem_flatMap]
    cases path with
    | nil => simp [leafAt?]
    | cons name rest =>
      constructor
      · rintro ⟨⟨first, child⟩, member, inside⟩
        obtain ⟨leaf, leafInside, same⟩ := List.mem_map.mp inside
        cases same
        have found := (get?_eq_some_iff ascending).mpr member
        simpa [leafAt?, found] using (ih _ member leaf.1).mp leafInside
      · intro walked
        simp only [leafAt?] at walked
        split at walked
        · rename_i child found
          have member := mem_of_get? found
          exact ⟨(name, child), member,
            List.mem_map.mpr ⟨(rest, text), (ih _ member rest).mpr walked, rfl⟩⟩
        · cases walked

/-- The leaves of a node stand in the order of their paths. -/
theorem leaves_ascending {node : Node} (ordered : node.Ordered) :
    node.leaves.Pairwise fun a b => a.1 < b.1 := by
  induction ordered with
  | text phrase => exact List.pairwise_singleton _ _
  | bool b => exact List.pairwise_singleton _ _
  | number n => exact List.pairwise_singleton _ _
  | null => exact List.Pairwise.nil
  | @group children ascending each ih =>
    rw [leaves, groupLeaves_eq_flatMap, List.pairwise_flatMap]
    refine ⟨fun child member => ?_, ascending.imp fun {one other} smaller => ?_⟩
    · rw [List.pairwise_map]
      exact (ih child member).imp fun smaller =>
        List.cons_lt_cons_iff.mpr (Or.inr ⟨rfl, smaller⟩)
    · intro a inOne b inOther
      obtain ⟨leaf, -, rfl⟩ := List.mem_map.mp inOne
      obtain ⟨leaf', -, rfl⟩ := List.mem_map.mp inOther
      exact List.cons_lt_cons_iff.mpr (Or.inl smaller)

theorem texts_flatMap_eq_leaves (nodes : NameMap Node) :
    (nodes.flatMap fun child => child.2.texts child.1) =
      (group nodes).leaves.map fun leaf => (dotted leaf.1, leaf.2) := by
  rw [leaves, groupLeaves_eq_flatMap, List.map_flatMap]
  simp [texts_eq_leaves, Function.comp_def]

mutual

/-- A node without the null leaves and the groups in which no text is left; `none` if nothing is
left of it. -/
def pruned? : Node → Option Node
  | null => none
  | group children =>
    match prunedGroup children with
    | [] => none
    | kept => some (group kept)
  | leaf => some leaf

def prunedGroup : List (String × Node) → List (String × Node)
  | [] => []
  | (name, child) :: rest =>
    match pruned? child with
    | some kept => (name, kept) :: prunedGroup rest
    | none => prunedGroup rest

end

mutual

/-- Pruning takes no text away. -/
theorem texts_pruned? (key : String) (node : Node) :
    ((pruned? node).elim [] fun kept => kept.texts key) = node.texts key := by
  cases node with
  | text phrase => rfl
  | bool b => rfl
  | number n => rfl
  | null => rfl
  | group children =>
    rw [texts, ← groupTexts_prunedGroup key children, pruned?]
    split
    · rename_i nothing
      rw [nothing]
      rfl
    · rfl

theorem groupTexts_prunedGroup (key : String) (children : List (String × Node)) :
    groupTexts key (prunedGroup children) = groupTexts key children := by
  cases children with
  | nil => rfl
  | cons child rest =>
    have first := texts_pruned? (key ++ "." ++ child.1) child.2
    have others := groupTexts_prunedGroup key rest
    rw [prunedGroup, groupTexts, ← first, ← others]
    cases pruned? child.2 <;> rfl

end

end Node

namespace Resources

def spacesOf (r : Resources) (locale : String) : NameMap (NameMap Node) :=
  (r.tree.get? locale).getD []

def nodesOf (r : Resources) (locale space : String) : NameMap Node :=
  ((r.spacesOf locale).get? space).getD []

def leafAt? (r : Resources) (locale space : String) (path : List String) : Option String :=
  (Node.group (r.nodesOf locale space)).leafAt? path

/-- A tree without null leaves and without groups that hold no text. -/
def pruned (r : Resources) : Resources :=
  ⟨r.tree.map fun (locale, spaces) =>
    (locale, spaces.map fun (space, nodes) => (space, Node.prunedGroup nodes))⟩

theorem ordered_spacesOf (r : OrderedResources) (locale : String) :
    OrderedOf (OrderedOf Node.Ordered) (r.spacesOf locale) :=
  r.ordered.getD_get? (orderedOf_nil _) locale

theorem ordered_nodesOf (r : OrderedResources) (locale space : String) :
    OrderedOf Node.Ordered (r.nodesOf locale space) :=
  (ordered_spacesOf r locale).getD_get? (orderedOf_nil _) space

theorem ordered_group_nodesOf (r : OrderedResources) (locale space : String) :
    (Node.group (r.nodesOf locale space)).Ordered :=
  have nodesOrdered := ordered_nodesOf r locale space
  .group nodesOrdered.ascending nodesOrdered.each

def phrasesOf (locale space : String) (nodes : NameMap Node) : List Phrase :=
  (Node.group nodes).leaves.map fun leaf => ⟨locale, space, dotted leaf.1, leaf.2⟩

theorem phrases_eq_flatMap (r : Resources) :
    r.phrases = r.tree.flatMap fun locale =>
      locale.2.flatMap fun space => phrasesOf locale.1 space.1 space.2 := by
  have each (locale space : String) (nodes : NameMap Node) :
      (nodes.flatMap fun child => (child.2.texts child.1).map fun text =>
        (⟨locale, space, text.1, text.2⟩ : Phrase)) = phrasesOf locale space nodes := by
    rw [← List.map_flatMap, Node.texts_flatMap_eq_leaves, List.map_map]
    rfl
  simp only [← each]
  rfl

theorem find?_phrasesOf (locale space key : String) (nodes : NameMap Node) :
    ((phrasesOf locale space nodes).find? fun p => p.isFor locale space key) =
      ((Node.group nodes).leaves.find? fun leaf => dotted leaf.1 = key).map
        fun leaf => ⟨locale, space, key, leaf.2⟩ := by
  have same : ((fun p : Phrase => p.isFor locale space key) ∘
      fun leaf : List String × String => ⟨locale, space, dotted leaf.1, leaf.2⟩) =
      fun leaf => decide (dotted leaf.1 = key) := by
    funext leaf
    simp [Phrase.isFor]
  rw [phrasesOf, List.find?_map, same]
  cases found : (Node.group nodes).leaves.find? fun leaf => decide (dotted leaf.1 = key) with
  | none => rfl
  | some leaf =>
    have named := List.find?_some found
    rw [Option.map_some, Option.map_some, of_decide_eq_true named]

/-- The first phrase for a place is the first leaf of its namespace with its key. -/
theorem find?_phrases (r : OrderedResources) (locale space key : String) :
    (r.phrases.find? fun p => p.isFor locale space key) =
      ((Node.group (r.nodesOf locale space)).leaves.find? fun leaf => dotted leaf.1 = key).map
        fun leaf => ⟨locale, space, key, leaf.2⟩ := by
  have elsewhere (locale' space' : String) (nodes : NameMap Node)
      (different : locale' ≠ locale ∨ space' ≠ space) :
      ((phrasesOf locale' space' nodes).find? fun p => p.isFor locale space key) = none := by
    rw [List.find?_eq_none]
    intro p member
    obtain ⟨leaf, -, rfl⟩ := List.mem_map.mp member
    rcases different with other | other <;> simp [Phrase.isFor, other]
  rw [phrases_eq_flatMap, List.find?_flatMap, findSome?_eq_of_name r.ordered.ascending]
  · unfold nodesOf spacesOf
    cases found : r.tree.get? locale with
    | none => rfl
    | some spaces =>
      have spacesOrdered := r.ordered.of_get? found
      simp only [Option.bind_some, Option.getD_some]
      rw [List.find?_flatMap, findSome?_eq_of_name spacesOrdered.ascending]
      · cases found' : NameMap.get? spaces space with
        | none => rfl
        | some nodes => exact find?_phrasesOf locale space key nodes
      · intro pair _ different
        exact elsewhere _ _ _ (Or.inr different)
  · intro pair _ different
    rw [List.find?_flatMap, List.findSome?_eq_none_iff]
    intro pair' _
    exact elsewhere _ _ _ (Or.inl different)

/-- Null leaves and groups without texts give no phrases. -/
theorem phrases_pruned (r : Resources) : r.pruned.phrases = r.phrases := by
  have each (nodes : NameMap Node) :
      (Node.prunedGroup nodes).flatMap (fun child => child.2.texts child.1) =
        nodes.flatMap fun child => child.2.texts child.1 := by
    induction nodes with
    | nil => rfl
    | cons child rest ih =>
      rw [List.flatMap_cons, ← Node.texts_pruned? child.1 child.2, ← ih, Node.prunedGroup]
      cases Node.pruned? child.2 <;> rfl
  have every (locale space : String) (nodes : NameMap Node) :
      phrasesOf locale space (Node.prunedGroup nodes) = phrasesOf locale space nodes := by
    have same := each nodes
    rw [Node.texts_flatMap_eq_leaves, Node.texts_flatMap_eq_leaves] at same
    have tagged := congrArg (List.map fun text => (⟨locale, space, text.1, text.2⟩ : Phrase)) same
    simpa [phrasesOf, Function.comp_def] using tagged
  rw [phrases_eq_flatMap, phrases_eq_flatMap]
  simp [pruned, List.flatMap_map, every]

end Resources

end Phrasebook
