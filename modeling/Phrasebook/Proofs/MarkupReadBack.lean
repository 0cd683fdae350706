import Phrasebook.Proofs.MarkupSafety

/-!
# Escaped texts read back

An escaped text is taken apart by its entities alone. No entity begins another one, and an
ampersand stands nowhere in an entity but at its front, so reading from left to right meets the
entity of every escaped character where it begins. Replacing each of them by its character gives
the text again, whatever entities that text had of its own.
-/
namespace Phrasebook.Markup

/-- The entities with the characters that they stand for. -/
def entities : List (List Char × Char) :=
  [("&amp;".toList, '&'), ("&lt;".toList, '<'), ("&gt;".toList, '>'), ("&quot;".toList, '"'),
    ("&#39;".toList, '\''), ("&#x2F;".toList, '/')]

def entityAt? (s : List Char) : Option (List Char × Char) :=
  entities.find? fun entity => entity.1.isPrefixOf s

/-- Replaces entities by their characters, from left to right. -/
def unescape (s : List Char) : List Char :=
  match s with
  | [] => []
  | c :: rest =>
    match entityAt? (c :: rest) with
    | some (name, character) => character :: unescape (rest.drop name.tail.length)
    | none => c :: unescape rest
termination_by s.length
decreasing_by
  · simp only [List.length_drop, List.length_cons]
    omega
  · simp

/-- No entity begins another, so the order in which they are tried does not matter. -/
theorem entities_apart : ∀ one ∈ entities, ∀ other ∈ entities, one.1 <+: other.1 → one = other := by
  decide

/-- An entity begins with an ampersand and has no other one. -/
theorem entity_shape : ∀ entity ∈ entities,
    entity.1.head? = some '&' ∧ '&' ∉ entity.1.tail := by
  decide

theorem entityAt?_append {entity : List Char × Char} (known : entity ∈ entities)
    (behind : List Char) : entityAt? (entity.1 ++ behind) = some entity := by
  have begins : entity.1.isPrefixOf (entity.1 ++ behind) = true := by simp
  cases found : entityAt? (entity.1 ++ behind) with
  | none =>
    have absent := List.find?_eq_none.mp found entity known
    exact absurd begins absent
  | some other =>
    -- Of two entities at the same front one would begin the other.
    have within : other.1 <+: entity.1 ++ behind := by simpa using List.find?_some found
    have member := List.mem_of_find?_eq_some found
    rcases List.prefix_or_prefix_of_prefix within (List.prefix_append entity.1 behind) with
      shorter | longer
    · rw [entities_apart other member entity known shorter]
    · rw [entities_apart entity known other member longer]

theorem entityAt?_of_ne {c : Char} (plain : c ≠ '&') (rest : List Char) :
    entityAt? (c :: rest) = none := by
  apply List.find?_eq_none.mpr
  intro entity known begins
  obtain ⟨front, -⟩ := entity_shape entity known
  obtain ⟨tail, same⟩ := List.head?_eq_some_iff.mp front
  simp [same, plain.symm] at begins

theorem unescape_entity {entity : List Char × Char} (known : entity ∈ entities)
    (behind : List Char) : unescape (entity.1 ++ behind) = entity.2 :: unescape behind := by
  obtain ⟨front, -⟩ := entity_shape entity known
  obtain ⟨tail, same⟩ := List.head?_eq_some_iff.mp front
  have found := entityAt?_append known behind
  rw [same, List.cons_append] at found ⊢
  rw [unescape, found]
  simp [same]

theorem unescape_plain {c : Char} (plain : c ≠ '&') (rest : List Char) :
    unescape (c :: rest) = c :: unescape rest := by
  rw [unescape, entityAt?_of_ne plain]

/-- A character is escaped to its entity, or it stands for itself. -/
theorem escapeChar_cases (c : Char) :
    (∃ name, (name, c) ∈ entities ∧ escapeChar c = name) ∨
      (c ≠ '&' ∧ isSignificant c = false ∧ escapeChar c = [c]) := by
  unfold escapeChar
  split_ifs with ampersand less greater quote apostrophe slash
  case neg => simp [isSignificant, ampersand, less, greater, quote, apostrophe, slash]
  all_goals
    subst c
    exact .inl ⟨_, by decide, rfl⟩

/-- Every text is read back from its escaped form. -/
theorem unescape_flatMap (text : List Char) : unescape (text.flatMap escapeChar) = text := by
  induction text with
  | nil => simp [unescape]
  | cons c rest ih =>
    rw [List.flatMap_cons]
    rcases escapeChar_cases c with ⟨name, known, same⟩ | ⟨plain, -, same⟩
    · rw [same, unescape_entity known, ih]
    · rw [same, List.singleton_append, unescape_plain plain, ih]

/-- An ampersand in an escaped character is the first character of its entity. -/
theorem entity_of_escapeChar {c : Char} {front behind : List Char}
    (split : escapeChar c = front ++ '&' :: behind) :
    front = [] ∧ ∃ entity ∈ entities, entity.1 = '&' :: behind := by
  rcases escapeChar_cases c with ⟨name, known, same⟩ | ⟨plain, -, same⟩
  · obtain ⟨-, alone⟩ := entity_shape _ known
    rw [same] at split
    cases front with
    | nil => exact ⟨rfl, _, known, split⟩
    | cons first others =>
      rw [split] at alone
      simp at alone
  · rw [same, List.singleton_eq_append_iff] at split
    simp [plain.symm] at split

/-- Where an escaped text goes on with an ampersand, an entity begins. -/
theorem entity_of_ampersand {text front behind : List Char}
    (split : text.flatMap escapeChar = front ++ '&' :: behind) :
    ∃ entity ∈ entities, entity.1 <+: '&' :: behind := by
  induction text generalizing front with
  | nil => simp at split
  | cons c rest ih =>
    rw [List.flatMap_cons] at split
    -- The ampersand stands behind the first escaped character, or inside it.
    rcases List.append_eq_append_iff.mp split with ⟨_, -, later⟩ | ⟨between, here, later⟩
    · exact ih later
    · cases between with
      | nil => exact @ih [] later.symm
      | cons d within =>
        obtain rfl : '&' = d := (List.cons.inj later).1
        obtain ⟨-, entity, known, same⟩ := entity_of_escapeChar here
        rw [later, ← same]
        exact ⟨entity, known, List.prefix_append _ _⟩

/-- An escaped text has none of the significant characters, and every ampersand in it begins an
entity. Replacing the entities from left to right gives the text back, so no two texts are escaped
alike. -/
theorem escaped_text_reads_back (text : String) :
    (∀ c ∈ ['<', '>', '"', '\'', '/'], c ∉ (escape text).toList) ∧
    (∀ front behind, (escape text).toList = front ++ '&' :: behind →
      ∃ entity ∈ entities, entity.1 <+: '&' :: behind) ∧
    unescape (escape text).toList = text.toList ∧
    Function.Injective escape := by
  have escaped : ∀ s : String, (escape s).toList = s.toList.flatMap escapeChar := by
    intro s
    simp [escape]
  have readsBack : ∀ s : String, unescape (escape s).toList = s.toList := by
    intro s
    rw [escaped, unescape_flatMap]
  refine ⟨?_, ?_, readsBack text, ?_⟩
  · intro c listed held
    have significant : ∀ c ∈ ['<', '>', '"', '\'', '/'], isSignificant c = true := by
      simp [isSignificant]
    have kept : c ∈ skeleton (escape text) := List.mem_filter.mpr ⟨held, significant c listed⟩
    rw [skeleton_escape] at kept
    exact List.not_mem_nil kept
  · intro front behind split
    rw [escaped] at split
    exact entity_of_ampersand split
  · intro one other same
    rw [← String.toList_inj, ← readsBack one, ← readsBack other, same]

/-- A text that is escaped already, as far as it looks. -/
theorem escaped_text_reads_back_of_entities :
    '<' ∉ (escape "&amp;lt; & '/").toList ∧
    (∃ entity ∈ entities, entity.1 <+: "&amp; &#39;&#x2F;".toList) ∧
    unescape (escape "&amp;lt; & '/").toList = "&amp;lt; & '/".toList ∧
    escape "&lt;" ≠ escape "<" := by
  obtain ⟨absent, begins, readsBack, apart⟩ := escaped_text_reads_back "&amp;lt; & '/"
  refine ⟨absent '<' (by decide), ?_, readsBack, ?_⟩
  · exact begins "&amp;amp;lt; ".toList "amp; &#39;&#x2F;".toList (by decide)
  · intro same
    exact absurd (apart same) (by decide)

end Phrasebook.Markup
