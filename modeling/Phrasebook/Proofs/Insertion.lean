import Phrasebook.Proofs.FirstDefinition

/-!
# What an insertion changes

An insertion acts on the names right below a namespace, and a catalog is addressed by keys. The
inserted text counts for its key unless a longer path leads to the key as well, since the longer
path is the smaller one. Where the inserted name stood for a group, the texts below it are gone;
all other keys keep their texts.
-/
namespace Phrasebook

open NameMap

/-- A path with several names is smaller than the path of its whole key. -/
theorem lt_singleton_dotted (name next : String) (rest : List String) :
    name :: next :: rest < [dotted (name :: next :: rest)] := by
  apply List.cons_lt_cons_iff.mpr
  left
  have whole : (dotted (name :: next :: rest)).toList =
      name.toList ++ '.' :: (dotted (next :: rest)).toList := by simp
  apply lt_of_le_of_ne
  · exact not_lt.mp (not_lt_of_toList_eq_append whole)
  · intro same
    have length := congrArg List.length whole
    rw [← same] at length
    simp at length

/-- The only path to a key that begins with the key itself is the key alone. -/
theorem eq_singleton_of_head? {path : List String} {key : String} (named : dotted path = key)
    (first : path.head? = some key) : path = [key] := by
  match path, first with
  | [name], first => rw [List.head?_cons, Option.some.injEq] at first; rw [first]
  | name :: next :: rest, first =>
    rw [List.head?_cons, Option.some.injEq] at first
    have smaller := lt_singleton_dotted name next rest
    rw [named, first] at smaller
    rcases List.cons_lt_cons_iff.mp smaller with less | ⟨-, less⟩
    · exact absurd less (String.lt_irrefl key)
    · exact absurd less (List.not_lt_nil _)

/-- A path to another key that begins with the key has further names. -/
theorem exists_below_of_head? {path : List String} {key key' : String} (named : dotted path = key')
    (other : key' ≠ key) (first : path.head? = some key) :
    ∃ next rest, path = key :: next :: rest := by
  match path with
  | [name] =>
    rw [List.head?_cons, Option.some.injEq] at first
    exact absurd (named.symm.trans (by rw [dotted_singleton, first])) other
  | name :: next :: rest =>
    rw [List.head?_cons, Option.some.injEq] at first
    exact ⟨next, rest, by rw [first]⟩

namespace Resources

/-- Several names lead to a text of the key. -/
def DefinesNested (r : Resources) (locale space key : String) : Prop :=
  ∃ name next rest, (r.leafAt? locale space (name :: next :: rest)).isSome ∧
    dotted (name :: next :: rest) = key

/-- A name is the first of several that lead to a text of the key. -/
def DefinesBelow (r : Resources) (locale space name key : String) : Prop :=
  ∃ next rest, (r.leafAt? locale space (name :: next :: rest)).isSome ∧
    dotted (name :: next :: rest) = key

theorem spacesOf_insert (r : OrderedResources) (locale space key text locale' : String) :
    (r.insert locale space key text).spacesOf locale' =
      if locale' = locale then
        (r.spacesOf locale).alter space fun nodes =>
          NameMap.insert (nodes.getD []) key (.text text)
      else r.spacesOf locale' :=
  getD_get?_alter r.ordered.ascending locale (fun spaces => spaces.alter space fun nodes =>
    NameMap.insert (nodes.getD []) key (.text text)) [] locale'

theorem nodesOf_insert (r : OrderedResources) (locale space key text locale' space' : String) :
    (r.insert locale space key text).nodesOf locale' space' =
      if locale' = locale ∧ space' = space then
        NameMap.insert (r.nodesOf locale space) key (.text text)
      else r.nodesOf locale' space' := by
  have spacesAscending := (ordered_spacesOf r locale).ascending
  unfold nodesOf
  rw [spacesOf_insert r]
  by_cases here : locale' = locale
  · have altered := getD_get?_alter spacesAscending space
      (NameMap.insert · key (.text text)) [] space'
    simpa [here] using altered
  · simp [here]

/-- Along other paths an insertion changes nothing. -/
theorem leafAt?_insert_of_other (r : OrderedResources) (locale space key text : String)
    {locale' space' : String} {path : List String}
    (other : locale' = locale → space' = space → path.head? ≠ some key) :
    (r.insert locale space key text).leafAt? locale' space' path =
      r.leafAt? locale' space' path := by
  unfold leafAt?
  rw [nodesOf_insert r]
  by_cases here : locale' = locale ∧ space' = space
  · rw [if_pos here, here.1, here.2]
    cases path with
    | nil => rfl
    | cons name rest =>
      have different : name ≠ key := by simpa using other here.1 here.2
      simp only [Node.leafAt?, NameMap.insert, get?_alter_of_ne different]
  · rw [if_neg here]

theorem leafAt?_insert_self (r : OrderedResources) (locale space key text : String) :
    (r.insert locale space key text).leafAt? locale space [key] = some text := by
  have nodesAscending := (ordered_nodesOf r locale space).ascending
  simp [leafAt?, nodesOf_insert r, Node.leafAt?, NameMap.insert,
    get?_alter_self nodesAscending]

/-- The paths to the inserted key are the same, but for the inserted name. -/
theorem leafAt?_insert_of_longer (r : OrderedResources) (locale space text : String) {key : String}
    {path : List String} (named : dotted path = key) (longer : path ≠ [key]) :
    (r.insert locale space key text).leafAt? locale space path = r.leafAt? locale space path :=
  leafAt?_insert_of_other r locale space key text fun _ _ first =>
    longer (eq_singleton_of_head? named first)

/-- No text is left below the inserted name. -/
theorem leafAt?_insert_below (r : OrderedResources) (locale space key text next : String)
    (rest : List String) :
    (r.insert locale space key text).leafAt? locale space (key :: next :: rest) = none := by
  have nodesAscending := (ordered_nodesOf r locale space).ascending
  simp [leafAt?, nodesOf_insert r, Node.leafAt?, NameMap.insert,
    get?_alter_self nodesAscending]

/-- The paths to another key are the same, but for those below the inserted name. -/
theorem leafAt?_insert_of_apart (r : OrderedResources) (locale space key text : String)
    {locale' space' key' : String} {path : List String}
    (other : (locale', space', key') ≠ (locale, space, key))
    (apart : locale' = locale → space' = space → ¬ r.DefinesBelow locale space key key')
    (named : dotted path = key') :
    (r.insert locale space key text).leafAt? locale' space' path =
      r.leafAt? locale' space' path := by
  by_cases through : locale' = locale ∧ space' = space ∧ path.head? = some key
  · obtain ⟨rfl, rfl, first⟩ := through
    have different : key' ≠ key := fun same => other (by rw [same])
    obtain ⟨next, rest, rfl⟩ := exists_below_of_head? named different first
    rw [leafAt?_insert_below r, eq_comm, ← Option.not_isSome_iff_eq_none]
    exact fun leaf => apart rfl rfl ⟨next, rest, leaf, named⟩
  · exact leafAt?_insert_of_other r locale space key text fun here here' first =>
      through ⟨here, here', first⟩

/-- Below a nested definition of a key the paths of the key decide, whatever the key itself
stands for. -/
theorem FirstDefinition.of_nested {r r' : Resources} {locale space key : String}
    (nested : r.DefinesNested locale space key)
    (same : ∀ path, dotted path = key → path ≠ [key] →
      r'.leafAt? locale space path = r.leafAt? locale space path)
    {path : List String} {text : String} (first : r.FirstDefinition locale space key path text) :
    r'.FirstDefinition locale space key path text := by
  obtain ⟨name, next, rest, leaf, rfl⟩ := nested
  have below := first.least _ leaf rfl
  have smaller : path < [dotted (name :: next :: rest)] :=
    lt_of_le_of_lt below (lt_singleton_dotted name next rest)
  refine ⟨?_, first.named, ?_⟩
  · rw [same path first.named (ne_of_lt smaller)]
    exact first.leaf
  · intro other leaf' named
    by_cases whole : other = [dotted (name :: next :: rest)]
    · exact whole ▸ le_of_lt smaller
    · rw [same other named whole] at leaf'
      exact first.least other leaf' named

/-- The first definition of a key depends on the leaves that spell it alone. -/
theorem FirstDefinition.of_same {r r' : Resources} {locale space key : String}
    (same : ∀ path, dotted path = key →
      r'.leafAt? locale space path = r.leafAt? locale space path)
    {path : List String} {text : String} (first : r.FirstDefinition locale space key path text) :
    r'.FirstDefinition locale space key path text where
  leaf := (same path first.named).trans first.leaf
  named := first.named
  least := fun other leaf named => first.least other (same other named ▸ leaf) named

/-- The inserted name is the first definition of its key unless the key is defined nested. -/
theorem firstDefinition_insert (r : OrderedResources) {locale space key : String} (text : String)
    (flat : ¬ r.DefinesNested locale space key) :
    (r.insert locale space key text).FirstDefinition locale space key [key] text := by
  refine ⟨leafAt?_insert_self r locale space key text, dotted_singleton key, ?_⟩
  intro other leaf named
  by_cases first : other.head? = some key
  · exact le_of_eq (eq_singleton_of_head? named first).symm
  · rw [leafAt?_insert_of_other r locale space key text fun _ _ => first] at leaf
    match other, ne_nil_of_leafAt? leaf with
    | [name], _ => simp_all
    | name :: next :: rest, _ => exact absurd ⟨name, next, rest, leaf, named⟩ flat

end Resources

namespace Catalog

/-- Trees with the same first definitions of a key give the same entry. -/
theorem find?_ofResources_congr {r r' : OrderedResources} {locale space key : String}
    (same : ∀ path text, r'.FirstDefinition locale space key path text ↔
      r.FirstDefinition locale space key path text) :
    (ofResources r'.toResources).1.find? locale space key =
      (ofResources r.toResources).1.find? locale space key := by
  ext entry
  simp only [find?_ofResources_eq_some_iff, same]

end Catalog

namespace Translator

open Resources

/-- After an insertion the translator holds the inserted text for the key, unless a longer path
leads to the key, which then keeps the entry it had. For every other key it holds what it held
before, unless the key was defined below the inserted name; a key that was defined nowhere else is
lost. -/
theorem holds_after_insert (r : OrderedResources) (locale space key text : String)
    (options : Options) :
    let before := (ofResources r.toResources options).1.catalog
    let after := (ofResources (r.insert locale space key text).toResources options).1.catalog
    (¬ r.DefinesNested locale space key → after.find? locale space key = some (.ofText text)) ∧
    (r.DefinesNested locale space key →
      after.find? locale space key = before.find? locale space key) ∧
    (∀ locale' space' key', (locale', space', key') ≠ (locale, space, key) →
      (locale' = locale → space' = space → ¬ r.DefinesBelow locale space key key') →
      after.find? locale' space' key' = before.find? locale' space' key') ∧
    ∀ key', key' ≠ key →
      (∀ path, (r.leafAt? locale space path).isSome → dotted path = key' →
        path.head? = some key) →
      after.find? locale space key' = none := by
  refine ⟨fun flat => ?_, ?_, ?_, ?_⟩
  · exact (Catalog.find?_ofResources_eq_some_iff _ _ _ _ _).mpr
      ⟨[key], text, firstDefinition_insert r text flat, rfl⟩
  · rintro ⟨name, next, rest, leaf, named⟩
    have same {path : List String} (named : dotted path = key) (longer : path ≠ [key]) :=
      leafAt?_insert_of_longer r locale space text named longer
    have leaf' : ((r.insert locale space key text).leafAt? locale space
        (name :: next :: rest)).isSome := by rwa [same named (by simp)]
    apply Catalog.find?_ofResources_congr
    intro path text'
    constructor
    · exact .of_nested ⟨name, next, rest, leaf', named⟩ fun _ named' longer =>
        (same named' longer).symm
    · exact .of_nested ⟨name, next, rest, leaf, named⟩ fun _ named' longer => same named' longer
  · intro locale' space' key' other apart
    have same {path : List String} (named : dotted path = key') :=
      leafAt?_insert_of_apart r locale space key text other apart named
    apply Catalog.find?_ofResources_congr
    intro path text'
    exact ⟨.of_same fun _ named => (same named).symm, .of_same fun _ named => same named⟩
  · intro key' other only
    rw [← Option.not_isSome_iff_eq_none]
    intro held
    obtain ⟨path, leaf, named⟩ :=
      (Catalog.isSome_find?_ofResources_iff _ locale space key').mp held
    by_cases first : path.head? = some key
    · obtain ⟨next, rest, rfl⟩ := exists_below_of_head? named other first
      rw [leafAt?_insert_below r] at leaf
      cases leaf
    · rw [leafAt?_insert_of_other r locale space key text fun _ _ => first] at leaf
      exact first (only path leaf named)

def files : OrderedResources where
  tree := [("en", [("translation", [("file", .group [("open", .text "Open")])])])]
  ordered := by decide

theorem holds_after_insert_of_files :
    (ofResources
      (files.insert "en" "translation" "file.close" "Close").toResources {}).1.catalog.find?
        "en" "translation" "file.close" = some (.ofText "Close") ∧
    (ofResources
      (files.insert "en" "translation" "file.close" "Close").toResources {}).1.catalog.find?
        "en" "translation" "file.open" =
      (ofResources files.toResources {}).1.catalog.find? "en" "translation" "file.open" := by
  have only (path : List String) (leaf : (files.leafAt? "en" "translation" path).isSome) :
      path = ["file", "open"] := by
    obtain ⟨text, found⟩ := Option.isSome_iff_exists.mp leaf
    have nodesOrdered := ordered_group_nodesOf files "en" "translation"
    have member : (path, text) ∈ [(["file", "open"], "Open")] :=
      (Node.mem_leaves_iff nodesOrdered path text).mpr found
    simp_all
  obtain ⟨flat, -, others, -⟩ :=
    holds_after_insert files "en" "translation" "file.close" "Close" {}
  refine ⟨flat ?_, others _ _ _ (by decide) fun _ _ => ?_⟩
  · rintro ⟨name, next, rest, leaf, named⟩
    rw [only _ leaf] at named
    exact absurd named (by decide)
  · rintro ⟨next, rest, leaf, -⟩
    exact absurd (only _ leaf) (by simp)

/-- The text inserted for a key that a group defines does not count, and a text inserted in place
of a group takes the texts of the group away. -/
theorem insert_beside_group_of_files :
    ((ofResources
      (files.insert "en" "translation" "file.open" "Open a file").toResources {}).1.catalog.find?
        "en" "translation" "file.open").map Entry.text = some "Open" ∧
    ((ofResources files.toResources {}).1.catalog.find?
      "en" "translation" "file.open").map Entry.text = some "Open" ∧
    ((ofResources (files.insert "en" "translation" "file" "File").toResources {}).1.catalog.find?
      "en" "translation" "file.open").map Entry.text = none := by
  refine ⟨?_, ?_, ?_⟩
  all_goals
    rw [catalog_ofResources, Catalog.text_find?_ofResources]
    decide

end Translator

end Phrasebook
