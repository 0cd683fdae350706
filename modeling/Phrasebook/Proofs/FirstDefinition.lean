import Mathlib.Data.String.Basic
import Phrasebook.Catalog.Translator
import Phrasebook.Proofs.Leaves

/-!
# Which definition of a key counts

Names may hold dots, so one key can be defined at several paths. The smallest path counts. Where
two paths to one key part, the smaller one has the shorter name and goes on below it, and the
larger one goes on in the same name behind a dot.
-/
namespace Phrasebook

open NameMap

/-! Paths to one key. -/

theorem toList_dotted (name : String) (rest : List String) :
    (dotted (name :: rest)).toList =
      name.toList ++ rest.flatMap fun next => '.' :: next.toList := by
  induction rest generalizing name with
  | nil => simp
  | cons next rest ih => simp [ih]

/-- A name that continues another one is not smaller. -/
theorem not_lt_of_toList_eq_append {name longer : String} {behind : List Char}
    (whole : longer.toList = name.toList ++ behind) : ¬ longer < name := by
  rw [String.lt_iff, whole]
  exact List.le_append_left

/-- Where two paths to one key part, the smaller one nests and the larger one has a dot. -/
theorem shorter_name_of_lt {path other : List String} (filled : path ≠ []) (filled' : other ≠ [])
    (same : dotted path = dotted other) (smaller : path < other) :
    ∃ before name rest longer behind, path = before ++ name :: rest ∧
      other = before ++ (name ++ "." ++ longer) :: behind ∧ rest ≠ [] := by
  induction path generalizing other with
  | nil => exact absurd rfl filled
  | cons name rest ih =>
    obtain ⟨name', rest', rfl⟩ := List.exists_cons_of_ne_nil filled'
    have characters := congrArg String.toList same
    rw [toList_dotted, toList_dotted] at characters
    rcases List.cons_lt_cons_iff.mp smaller with first | ⟨rfl, later⟩
    · rcases List.append_eq_append_iff.mp characters with
        ⟨added, whole, behind⟩ | ⟨added, whole, -⟩
      · have parted : added ≠ [] := by
          rintro rfl
          have equal : name' = name := String.toList_inj.mp (by simpa using whole)
          exact String.lt_irrefl name (equal ▸ first)
        obtain ⟨dot, longer, rfl⟩ := List.exists_cons_of_ne_nil parted
        cases rest with
        | nil => cases behind
        | cons next rest =>
          simp only [List.flatMap_cons, List.cons_append, List.cons.injEq] at behind
          refine ⟨[], name, next :: rest, String.ofList longer, rest', rfl, ?_, by simp⟩
          have equal : name' = name ++ "." ++ String.ofList longer := by
            rw [← String.toList_inj, whole, ← behind.1]
            simp
          rw [equal]
          rfl
      · exact absurd first (not_lt_of_toList_eq_append whole)
    · have tails := List.append_cancel_left characters
      cases rest' with
      | nil => exact absurd later (List.not_lt_nil _)
      | cons next' rest' =>
        cases rest with
        | nil => cases tails
        | cons next rest =>
          have below : dotted (next :: rest) = dotted (next' :: rest') := by
            rw [← String.toList_inj, toList_dotted, toList_dotted]
            simpa using tails
          obtain ⟨before, name', below', longer, behind, whole, whole', nested⟩ :=
            ih (by simp) (by simp) below later
          exact ⟨name :: before, name', below', longer, behind,
            congrArg (name :: ·) whole, congrArg (name :: ·) whole', nested⟩

/-! The first leaf with a key has the smallest path. -/

/-- In ascending leaves the first with a property is the one with the least path. -/
theorem find?_eq_some_iff_least {leaves : List (List String × String)}
    (ascending : leaves.Pairwise fun a b => a.1 < b.1) (P : List String × String → Bool)
    (leaf : List String × String) :
    leaves.find? P = some leaf ↔
      leaf ∈ leaves ∧ P leaf = true ∧ ∀ other ∈ leaves, P other = true → leaf.1 ≤ other.1 := by
  induction leaves with
  | nil => simp
  | cons head rest ih =>
    obtain ⟨first, others⟩ := List.pairwise_cons.mp ascending
    by_cases chosen : P head = true
    · rw [List.find?_cons_of_pos chosen, Option.some.injEq]
      constructor
      · rintro rfl
        refine ⟨List.mem_cons_self, chosen, fun other member _ => ?_⟩
        rcases List.mem_cons.mp member with rfl | later
        · exact le_refl _
        · exact le_of_lt (first other later)
      · rintro ⟨member, -, least⟩
        rcases List.mem_cons.mp member with rfl | later
        · rfl
        · exact absurd (first leaf later) (not_lt.mpr (least head List.mem_cons_self chosen))
    · rw [List.find?_cons_of_neg chosen, ih others]
      constructor
      · rintro ⟨member, picked, least⟩
        refine ⟨List.mem_cons_of_mem _ member, picked, fun other inside picked' => ?_⟩
        rcases List.mem_cons.mp inside with rfl | later
        · exact absurd picked' chosen
        · exact least other later picked'
      · rintro ⟨member, picked, least⟩
        rcases List.mem_cons.mp member with rfl | later
        · exact absurd picked chosen
        · exact ⟨later, picked, fun other inside => least other (List.mem_cons_of_mem _ inside)⟩

namespace Resources

/-- The smallest path that leads to a key in a namespace of a locale, and the text there. -/
structure FirstDefinition (r : Resources) (locale space key : String) (path : List String)
    (text : String) : Prop where
  leaf : r.leafAt? locale space path = some text
  named : dotted path = key
  least : ∀ other, (r.leafAt? locale space other).isSome → dotted other = key → path ≤ other

theorem ne_nil_of_leafAt? {r : Resources} {locale space : String} {path : List String}
    (leaf : (r.leafAt? locale space path).isSome) : path ≠ [] := by
  rintro rfl
  cases leaf

theorem find?_leaves_eq_some_iff (r : OrderedResources) (locale space key : String)
    (path : List String) (text : String) :
    ((Node.group (r.nodesOf locale space)).leaves.find? fun leaf => dotted leaf.1 = key) =
        some (path, text) ↔
      r.FirstDefinition locale space key path text := by
  have nodesOrdered := ordered_group_nodesOf r locale space
  have leaf (path : List String) (text : String) :
      (path, text) ∈ (Node.group (r.nodesOf locale space)).leaves ↔
        r.leafAt? locale space path = some text := Node.mem_leaves_iff nodesOrdered path text
  rw [find?_eq_some_iff_least (Node.leaves_ascending nodesOrdered)]
  simp only [decide_eq_true_eq, Prod.forall, leaf]
  constructor
  · rintro ⟨here, named, least⟩
    refine ⟨here, named, fun other shown => ?_⟩
    obtain ⟨text', there⟩ := Option.isSome_iff_exists.mp shown
    exact least other text' there
  · rintro ⟨here, named, least⟩
    exact ⟨here, named, fun other text' there => least other (Option.isSome_of_eq_some there)⟩

/-- A tree defines a key exactly if one of its definitions is the first. -/
theorem exists_firstDefinition_iff (r : OrderedResources) (locale space key : String) :
    (∃ path text, r.FirstDefinition locale space key path text) ↔
      ∃ path, (r.leafAt? locale space path).isSome ∧ dotted path = key := by
  constructor
  · rintro ⟨path, text, first⟩
    exact ⟨path, Option.isSome_of_eq_some first.leaf, first.named⟩
  · rintro ⟨path, leaf, named⟩
    obtain ⟨text, here⟩ := Option.isSome_iff_exists.mp leaf
    have nodesOrdered := ordered_group_nodesOf r locale space
    have member := (Node.mem_leaves_iff nodesOrdered path text).mpr here
    cases found : (Node.group (r.nodesOf locale space)).leaves.find? fun leaf =>
        dotted leaf.1 = key with
    | none => exact absurd named (by simpa using List.find?_eq_none.mp found _ member)
    | some first =>
      exact ⟨first.1, first.2, (find?_leaves_eq_some_iff r locale space key _ _).mp found⟩

end Resources

namespace Catalog

/-- A key has the entry of its first definition, and none without a definition. -/
theorem find?_ofResources_eq_some_iff (r : OrderedResources) (locale space key : String)
    (entry : Entry) :
    (ofResources r.toResources).1.find? locale space key = some entry ↔
      ∃ path text, r.FirstDefinition locale space key path text ∧ entry = .ofText text := by
  rw [find?_ofResources, Resources.entryAt?, Resources.find?_phrases, Option.map_map,
    Option.map_eq_some_iff, Prod.exists]
  simp only [Resources.find?_leaves_eq_some_iff, Function.comp_apply, eq_comm (a := entry)]

theorem isSome_find?_ofResources_iff (r : OrderedResources) (locale space key : String) :
    ((ofResources r.toResources).1.find? locale space key).isSome ↔
      ∃ path, (r.leafAt? locale space path).isSome ∧ dotted path = key := by
  rw [← Resources.exists_firstDefinition_iff, Option.isSome_iff_exists]
  simp only [find?_ofResources_eq_some_iff]
  constructor
  · rintro ⟨entry, path, text, first, -⟩
    exact ⟨path, text, first⟩
  · rintro ⟨path, text, first⟩
    exact ⟨_, path, text, first, rfl⟩

end Catalog

namespace Translator

@[simp] theorem catalog_ofResources (r : Resources) (options : Options) :
    (ofResources r options).1.catalog = (Catalog.ofResources r).1 := rfl

/-- A translator holds an entry for the keys of the leaves of its tree and for no others, and its
text is the one at the smallest path to the key. Of two paths to one key the smaller has, where
they part, the shorter name with more names below it, and the larger one has a dot there. Null
leaves and groups without texts change nothing. -/
theorem holds_smallest_definition (r : OrderedResources) (options : Options)
    (locale space : String) :
    let held := (ofResources r.toResources options).1.catalog.find? locale space
    (∀ key, (held key).isSome ↔
      ∃ path, (r.leafAt? locale space path).isSome ∧ dotted path = key) ∧
    (∀ key text, (held key).map Entry.text = some text ↔
      ∃ path, r.FirstDefinition locale space key path text) ∧
    (∀ path other, (r.leafAt? locale space path).isSome → (r.leafAt? locale space other).isSome →
      dotted path = dotted other → path < other →
      ∃ before name rest longer behind, path = before ++ name :: rest ∧
        other = before ++ (name ++ "." ++ longer) :: behind ∧ rest ≠ []) ∧
    ofResources r.pruned options = ofResources r.toResources options := by
  refine ⟨fun key => ?_, fun key text => ?_, fun path other leaf leaf' => ?_, ?_⟩
  · exact Catalog.isSome_find?_ofResources_iff r locale space key
  · rw [catalog_ofResources, Option.map_eq_some_iff]
    simp only [Catalog.find?_ofResources_eq_some_iff]
    constructor
    · rintro ⟨entry, ⟨path, text', first, rfl⟩, rfl⟩
      exact ⟨path, by simpa using first⟩
    · rintro ⟨path, first⟩
      exact ⟨_, ⟨path, text, first, rfl⟩, Entry.text_ofText text⟩
  · exact shorter_name_of_lt (Resources.ne_nil_of_leafAt? leaf) (Resources.ne_nil_of_leafAt? leaf')
  · simp only [ofResources, Catalog.ofResources, Resources.phrases_pruned]

/-- A tree that defines one key three times, next to a null leaf and an empty group. -/
def menus : OrderedResources where
  tree := [("en", [("translation",
    [("menu", .group [("file", .null), ("file.open", .text "Open a file")]),
      ("menu.file", .group [("close", .group []), ("open", .bool true)]),
      ("menu.file.open", .text "Open")])])]
  ordered := by decide

theorem holds_smallest_definition_of_menus :
    ((ofResources menus.toResources {}).1.catalog.find?
      "en" "translation" "menu.file.open").map Entry.text = some "Open a file" ∧
    (ofResources menus.toResources {}).1.catalog.find? "en" "translation" "menu.file" = none := by
  obtain ⟨defined, texts, -, -⟩ :=
    holds_smallest_definition menus {} "en" "translation"
  have leaves (path : List String) (leaf : (menus.leafAt? "en" "translation" path).isSome) :
      ∃ text, (path, text) ∈ [(["menu", "file.open"], "Open a file"),
        (["menu.file", "open"], "true"), (["menu.file.open"], "Open")] := by
    obtain ⟨text, found⟩ := Option.isSome_iff_exists.mp leaf
    have nodesOrdered := Resources.ordered_group_nodesOf menus "en" "translation"
    exact ⟨text, (Node.mem_leaves_iff nodesOrdered path text).mpr found⟩
  refine ⟨(texts _ _).mpr ⟨["menu", "file.open"], rfl, by decide, ?_⟩, ?_⟩
  · intro other leaf _
    obtain ⟨text, _ | ⟨_, _ | ⟨_, _ | ⟨_, ⟨⟩⟩⟩⟩⟩ := leaves other leaf
    all_goals decide
  · rw [← Option.not_isSome_iff_eq_none, defined]
    rintro ⟨path, leaf, named⟩
    obtain ⟨text, _ | ⟨_, _ | ⟨_, _ | ⟨_, ⟨⟩⟩⟩⟩⟩ := leaves path leaf
    all_goals exact absurd named (by decide)

end Translator

end Phrasebook
