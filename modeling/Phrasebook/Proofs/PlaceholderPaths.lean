import Phrasebook.Proofs.Cutting
import Phrasebook.Proofs.Leaves
import Phrasebook.Template.Render

/-!
# Where placeholder paths lead

A path is its names with dots between them, and a walk along the names goes from map to map. The
parameter whose whole name is the path comes first; otherwise a placeholder stands for what the
walk from all parameters leads to. So a filled template depends on no other parameters than those
named by its paths or by the first names of its paths.
-/
namespace Phrasebook

open Text

/-! Names of a path. -/

/-- The names of a path: dots stand between them and none inside. -/
structure NamesOf (path : String) (names : List String) : Prop where
  filled : names ≠ []
  joined : dotted names = path
  plain : ∀ name ∈ names, '.' ∉ name.toList

theorem NamesOf.singleton {path : String} (plain : '.' ∉ path.toList) : NamesOf path [path] where
  filled := List.cons_ne_nil _ _
  joined := dotted_singleton path
  plain := List.forall_mem_singleton.mpr plain

theorem NamesOf.cons {path head rest : String} {names : List String}
    (found : cut (· = '.') path = some (head, rest)) (behind : NamesOf rest names) :
    NamesOf path (head :: names) := by
  obtain ⟨whole, plain⟩ := cut_eq_some_iff.mp found
  obtain ⟨next, others, rfl⟩ := List.exists_cons_of_ne_nil behind.filled
  refine ⟨List.cons_ne_nil _ _, ?_, List.forall_mem_cons.mpr ⟨plain, behind.plain⟩⟩
  rw [dotted_cons_cons, behind.joined, ← String.toList_inj, whole]
  simp

/-- Cutting at every dot gives names of the path. -/
theorem namesOf_pieces (path : String) : NamesOf path (pieces '.' path) := by
  cases found : cut (· = '.') path with
  | none =>
    rw [pieces_of_uncut found]
    exact .singleton (cut_eq_none_iff.mp found)
  | some parts =>
    obtain ⟨head, rest⟩ := parts
    have shorter := length_lt_of_cut found
    rw [pieces_of_cut found]
    exact .cons found (namesOf_pieces rest)
termination_by path.toList.length

/-- A path has no names but its pieces. -/
theorem NamesOf.eq_pieces {path : String} {names : List String} (named : NamesOf path names) :
    names = pieces '.' path := by
  obtain ⟨filled, joined, plain⟩ := named
  induction names generalizing path with
  | nil => exact absurd rfl filled
  | cons name rest ih =>
    obtain ⟨first, others⟩ := List.forall_mem_cons.mp plain
    cases rest with
    | nil =>
      rw [← joined, dotted_singleton, pieces_of_uncut (cut_eq_none_iff.mpr first)]
    | cons next rest =>
      have found : cut (· = '.') path = some (name, dotted (next :: rest)) := by
        apply cut_eq_some_iff.mpr
        refine ⟨?_, first⟩
        rw [← joined]
        simp
      rw [pieces_of_cut found, ← ih (List.cons_ne_nil _ _) rfl others]

theorem namesOf_iff {path : String} {names : List String} :
    NamesOf path names ↔ names = pieces '.' path :=
  ⟨NamesOf.eq_pieces, fun same => same ▸ namesOf_pieces path⟩

/-! Walks. -/

namespace Value

/-- A walk along names: every name is looked up in a map, and the walk goes on from what the map
holds under it. -/
inductive LeadsTo : Value → List String → Value → Prop
  | arrived (v : Value) : LeadsTo v [] v
  | onward {entries : NameMap Value} {name : String} {inner found : Value} {names : List String}
      (held : entries.get? name = some inner) (others : LeadsTo inner names found) :
      LeadsTo (map entries) (name :: names) found

theorem field?_eq_some_iff {v inner : Value} {name : String} :
    v.field? name = some inner ↔
      ∃ entries : NameMap Value, v = map entries ∧ entries.get? name = some inner := by
  cases v <;> simp [field?]

theorem foldlM_field?_eq_some_iff {v found : Value} {names : List String} :
    names.foldlM field? v = some found ↔ v.LeadsTo names found := by
  induction names generalizing v with
  | nil =>
    constructor
    · intro same
      cases same
      exact .arrived _
    · intro walk
      cases walk
      rfl
  | cons name names ih =>
    rw [List.foldlM_cons, Option.bind_eq_bind, Option.bind_eq_some_iff]
    constructor
    · rintro ⟨inner, held, onward⟩
      obtain ⟨entries, rfl, held⟩ := field?_eq_some_iff.mp held
      exact .onward held (ih.mp onward)
    · intro walk
      cases walk with
      | onward held others => exact ⟨_, held, ih.mpr others⟩

/-- A path reaches what a walk along its names leads to. -/
theorem getPath?_eq_some_iff {v found : Value} {path : String} :
    v.getPath? path = some found ↔ v.LeadsTo (pieces '.' path) found :=
  foldlM_field?_eq_some_iff

/-- A path of one name is looked up at once. -/
theorem getPath?_of_uncut {path : String} (whole : cut (· = '.') path = none) (v : Value) :
    v.getPath? path = v.field? path := by
  rw [getPath?, pieces_of_uncut whole, List.foldlM_cons]
  exact bind_pure (v.field? path)

/-- The first name of a path is looked up first, and the rest of the path from there. -/
theorem getPath?_of_cut {path head rest : String}
    (found : cut (· = '.') path = some (head, rest)) (v : Value) :
    v.getPath? path = (v.field? head).bind fun inner => inner.getPath? rest := by
  rw [getPath?, pieces_of_cut found, List.foldlM_cons]
  rfl

end Value

/-! Placeholders. -/

namespace Template

/-- A placeholder stands for the parameter with the whole path as its name, or else for what the
path leads to from all parameters. -/
theorem resolve_eq_getPath? (params : Params) (path : String) :
    resolve params path = (params.get? path).or ((Value.map params).getPath? path) := by
  unfold resolve
  cases flat : params.get? path with
  | some value => rfl
  | none =>
    rw [Option.none_or]
    cases found : cut (· = '.') path with
    | none =>
      rw [Value.getPath?_of_uncut found]
      exact flat.symm
    | some parts =>
      rw [Value.getPath?_of_cut found]
      rfl

/-- A template consults the parameters that are named by its paths or by what stands in front of
the first dot of one of them. -/
def Consults (t : Template) (name : String) : Prop :=
  ∃ path ∈ t.placeholders, name = path ∨
    ∃ rest, path.toList = name.toList ++ '.' :: rest ∧ '.' ∉ name.toList

theorem consults_iff {t : Template} {name : String} :
    t.Consults name ↔
      ∃ path ∈ t.placeholders, name = path ∨ ∃ rest, cut (· = '.') path = some (name, rest) := by
  have same (path : String) : (∃ rest, path.toList = name.toList ++ '.' :: rest ∧
      '.' ∉ name.toList) ↔ ∃ rest, cut (· = '.') path = some (name, rest) := by
    constructor
    · rintro ⟨rest, parts⟩
      exact ⟨String.ofList rest, cut_eq_some_iff.mpr (by simpa using parts)⟩
    · rintro ⟨rest, found⟩
      exact ⟨rest.toList, cut_eq_some_iff.mp found⟩
  simp only [Consults, same]

/-- A path is resolved by the parameter of its own name and the one of its first name alone. -/
theorem resolve_congr {P Q : Params} {path : String} (whole : P.get? path = Q.get? path)
    (first : ∀ head rest, cut (· = '.') path = some (head, rest) → P.get? head = Q.get? head) :
    resolve P path = resolve Q path := by
  unfold resolve
  rw [whole]
  cases found : cut (· = '.') path with
  | none => rfl
  | some parts =>
    have same := first parts.1 parts.2 found
    simp only [Option.bind_eq_bind, Option.bind_some, same]

theorem renderSegment_congr {P Q : Params} {segment : Segment} (escape : Bool)
    (same : ∀ path ∈ segment.path?, resolve P path = resolve Q path) :
    renderSegment P escape segment = renderSegment Q escape segment := by
  cases segment with
  | literal text => rfl
  | placeholder path raw => rw [renderSegment, renderSegment, same path rfl]

/-- Parameters that a template does not consult have no part in its text or in what it misses. -/
theorem render_congr {t : Template} {P Q : Params}
    (agree : ∀ name, t.Consults name → P.get? name = Q.get? name) (escape : Bool) :
    t.render P escape = t.render Q escape := by
  have each : ∀ segment ∈ t.segments,
      renderSegment P escape segment = renderSegment Q escape segment := by
    intro segment member
    apply renderSegment_congr
    intro path shown
    have listed : path ∈ t.placeholders := List.mem_filterMap.mpr ⟨segment, member, shown⟩
    apply resolve_congr (agree path ⟨path, listed, .inl rfl⟩)
    intro head rest found
    exact agree head (consults_iff.mpr ⟨path, listed, .inr ⟨rest, found⟩⟩)
  rw [render, render, List.map_congr_left each]

/-- Placeholders are resolved by whole names first and by walks along all names of their paths
otherwise, and what a template gives depends on the parameters that it consults alone. -/
theorem resolves_along_names :
    (∀ (params : Params) (path : String),
      resolve params path = (params.get? path).or ((Value.map params).getPath? path) ∧
      ∃ names, (∀ other, NamesOf path other ↔ other = names) ∧
        ∀ v found : Value, v.getPath? path = some found ↔ v.LeadsTo names found) ∧
    ∀ (t : Template) (P Q : Params),
      (∀ name, t.Consults name → P.get? name = Q.get? name) →
      ∀ escape, t.render P escape = t.render Q escape := by
  constructor
  · intro params path
    refine ⟨resolve_eq_getPath? params path, pieces '.' path, ?_, ?_⟩
    · exact fun other => namesOf_iff
    · exact fun v found => Value.getPath?_eq_some_iff
  · intro t P Q agree escape
    exact render_congr agree escape

def visit : Template :=
  ⟨[.placeholder "user.name" false, .literal " (", .placeholder "user..id" true, .literal ")",
    .placeholder "host.name" false]⟩

def ada : Value := .map [("", .map [("id", .string "<7>")]), ("name", .string "A & B")]

theorem resolves_along_names_of_visit :
    (∀ name, visit.Consults name →
      NameMap.get? [("id", .number 1), ("user", ada)] name =
        NameMap.get? [("name", .null), ("user", ada)] name) ∧
    visit.render [("id", .number 1), ("user", ada)] true =
      visit.render [("name", .null), ("user", ada)] true ∧
    visit.render [("name", .null), ("user", ada)] true =
      ⟨"A &amp; B (<7>)", ["host.name"]⟩ := by
  have agree : ∀ name, visit.Consults name →
      NameMap.get? [("id", .number 1), ("user", ada)] name =
        NameMap.get? [("name", .null), ("user", ada)] name := by
    intro name consulted
    obtain ⟨path, listed, consulted⟩ := consults_iff.mp consulted
    have paths : path = "user.name" ∨ path = "user..id" ∨ path = "host.name" := by
      simpa [visit, placeholders, Segment.path?, eq_comm] using listed
    rcases consulted with rfl | ⟨rest, found⟩
    · obtain rfl | rfl | rfl := paths <;> rfl
    · obtain rfl | rfl | rfl := paths <;> cases found <;> rfl
  exact ⟨agree, resolves_along_names.2 _ _ _ agree true, by decide +kernel⟩

end Template

end Phrasebook
