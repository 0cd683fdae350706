import Phrasebook.Proofs.Trimming
import Phrasebook.Template.Parser

/-!
# What braces begin a placeholder

The reading of a placeholder is described without the reader: where its closing braces stand, what
path the text between its braces names, and when opening braces begin none. Adding an opening
brace in front of a placeholder gives a placeholder again, so braces that begin none cannot hide
one that starts with the second of them.
-/
namespace Phrasebook.Template

open Text Segment

def opening : List Char := ['\x7b', '\x7b']

def closing : List Char := ['\x7d', '\x7d']

/-- A pair of one character begins with a character if the next one is the same. -/
private theorem pair_prefix_cons_iff (x c : Char) (s : List Char) :
    [x, x] <+: c :: s ↔ c = x ∧ s.head? = some x := by
  cases s with
  | nil => simp
  | cons d rest => simp [eq_comm]

theorem opening_prefix_cons_iff (c : Char) (s : List Char) :
    opening <+: c :: s ↔ c = '\x7b' ∧ s.head? = some '\x7b' :=
  pair_prefix_cons_iff _ c s

theorem closing_prefix_cons_iff (c : Char) (s : List Char) :
    closing <+: c :: s ↔ c = '\x7d' ∧ s.head? = some '\x7d' :=
  pair_prefix_cons_iff _ c s

/-- One more character gives opening braces only as the first of two. -/
theorem opening_infix_cons_iff (c : Char) (s : List Char) :
    opening <:+: c :: s ↔ (c = '\x7b' ∧ s.head? = some '\x7b') ∨ opening <:+: s := by
  rw [List.infix_cons_iff, opening_prefix_cons_iff]

theorem closing_infix_cons_iff (c : Char) (s : List Char) :
    closing <:+: c :: s ↔ (c = '\x7d' ∧ s.head? = some '\x7d') ∨ closing <:+: s := by
  rw [List.infix_cons_iff, closing_prefix_cons_iff]

/-- The first closing braces of a text stand between `inner` and `behind`. -/
structure FirstClosing (s inner behind : List Char) : Prop where
  parts : s = inner ++ closing ++ behind
  first : ∀ earlier, earlier ++ closing <+: s → inner.length ≤ earlier.length

theorem FirstClosing.unique {s inner inner' behind behind' : List Char}
    (one : FirstClosing s inner behind) (other : FirstClosing s inner' behind') :
    inner = inner' ∧ behind = behind' := by
  have within : inner ++ closing <+: s := ⟨behind, one.parts.symm⟩
  have within' : inner' ++ closing <+: s := ⟨behind', other.parts.symm⟩
  have sameLength : inner.length = inner'.length :=
    Nat.le_antisymm (one.first inner' within') (other.first inner within)
  have whole : inner ++ (closing ++ behind) = inner' ++ (closing ++ behind') := by
    rw [← List.append_assoc, ← List.append_assoc, ← one.parts, ← other.parts]
  obtain ⟨sameInner, sameRest⟩ := List.append_inj whole sameLength
  exact ⟨sameInner, List.append_cancel_left sameRest⟩

theorem firstClosing_nil (behind : List Char) : FirstClosing (closing ++ behind) [] behind :=
  ⟨rfl, fun _ _ => Nat.zero_le _⟩

theorem FirstClosing.cons {c : Char} {s inner behind : List Char}
    (found : FirstClosing s inner behind) (apart : ¬ closing <+: c :: s) :
    FirstClosing (c :: s) (c :: inner) behind := by
  refine ⟨by rw [found.parts]; rfl, ?_⟩
  intro earlier within
  cases earlier with
  | nil => exact absurd within apart
  | cons d earlier =>
    have tail : earlier ++ closing <+: s := (List.cons_prefix_cons.mp within).2
    exact Nat.succ_le_succ (found.first earlier tail)

/-- The overlap condition of the reader's rows, said with `closing`. -/
private theorem not_closing_in_front {c : Char} {rest : List Char}
    (apart : ∀ behind, c = '\x7d' → rest = '\x7d' :: behind → False) :
    ¬ closing <+: c :: rest := by
  rw [closing_prefix_cons_iff, List.head?_eq_some_iff]
  rintro ⟨brace, behind, next⟩
  exact apart behind brace next

theorem splitAtClosing_sound {s inner behind : List Char}
    (found : splitAtClosing s = some (inner, behind)) : FirstClosing s inner behind := by
  induction s using splitAtClosing.induct generalizing inner behind with
  | case1 => simp [splitAtClosing] at found
  | case2 rest =>
    simp only [splitAtClosing, Option.some.injEq, Prod.mk.injEq] at found
    obtain ⟨rfl, rfl⟩ := found
    exact firstClosing_nil rest
  | case3 c rest apart ih =>
    rw [splitAtClosing.eq_3 c rest apart, Option.map_eq_some_iff] at found
    obtain ⟨⟨inner', behind'⟩, deeper, same⟩ := found
    simp only [Prod.mk.injEq] at same
    obtain ⟨rfl, rfl⟩ := same
    exact (ih deeper).cons (not_closing_in_front apart)

theorem splitAtClosing_eq_none_iff (s : List Char) :
    splitAtClosing s = none ↔ ¬ closing <:+: s := by
  induction s using splitAtClosing.induct with
  | case1 => simp [splitAtClosing, closing]
  | case2 rest =>
    have within : closing <:+: '\x7d' :: '\x7d' :: rest := (List.prefix_append closing rest).isInfix
    simp [splitAtClosing, within]
  | case3 c rest apart ih =>
    rw [splitAtClosing.eq_3 c rest apart, Option.map_eq_none_iff, ih, List.infix_cons_iff]
    simp only [not_closing_in_front apart, false_or]

theorem splitAtClosing_eq_some_iff (s inner behind : List Char) :
    splitAtClosing s = some (inner, behind) ↔ FirstClosing s inner behind := by
  constructor
  · exact splitAtClosing_sound
  · intro closed
    cases found : splitAtClosing s with
    | none =>
      have absent := (splitAtClosing_eq_none_iff s).mp found
      exact absurd ⟨inner, behind, closed.parts.symm⟩ absent
    | some parts =>
      obtain ⟨inner', behind'⟩ := parts
      obtain ⟨rfl, rfl⟩ := closed.unique (splitAtClosing_sound found)
      rfl

def withoutMinus : List Char → List Char
  | '-' :: rest => rest
  | other => other

/-- The path that the text between braces names: trimmed, without one leading minus sign, up to
the first comma, and trimmed again. It may be empty. -/
def namedPath (inner : List Char) : List Char :=
  trimmed ((withoutMinus (trimmed inner)).takeWhile (· ≠ ','))

/-- Whether the text between braces asks for the value as it is. -/
def marksRaw (inner : List Char) : Bool :=
  decide ((trimmed inner).head? = some '-')

theorem ofInner?_eq (inner : List Char) :
    ofInner? inner = if namedPath inner = [] then none
      else some (placeholder (String.ofList (namedPath inner)) (marksRaw inner)) := by
  unfold ofInner? namedPath marksRaw
  cases body : trimmed inner with
  | nil => simp [withoutMinus]
  | cons c rest =>
    by_cases minus : c = '-'
    · subst minus
      simp [withoutMinus]
    · have kept : withoutMinus (c :: rest) = c :: rest := by
        unfold withoutMinus
        split <;> simp_all
      simp [kept, minus]

theorem ofInner?_eq_none_iff (inner : List Char) :
    ofInner? inner = none ↔ namedPath inner = [] := by
  rw [ofInner?_eq]
  split <;> simp_all

theorem ofInner?_eq_some_iff (inner : List Char) (segment : Segment) :
    ofInner? inner = some segment ↔ namedPath inner ≠ [] ∧
      segment = placeholder (String.ofList (namedPath inner)) (marksRaw inner) := by
  rw [ofInner?_eq]
  by_cases nameless : namedPath inner = []
  · simp [nameless]
  · rw [if_neg nameless, Option.some.injEq, eq_comm]
    simp [nameless]

theorem inner_ne_nil_of_ofInner? {inner : List Char} {segment : Segment}
    (named : ofInner? inner = some segment) : inner ≠ [] := by
  rintro rfl
  have path := ((ofInner?_eq_some_iff _ _).mp named).1
  exact path (by decide)

/-- Opening braces in front of `rest` begin no placeholder: no closing braces follow, they follow
at once, or the text up to the first ones names no path. -/
def OpensNothing (rest : List Char) : Prop :=
  ¬ closing <:+: rest ∨ closing <+: rest ∨
    ∃ inner behind, FirstClosing rest inner behind ∧ namedPath inner = []

/-- The placeholder at an opening is what the text up to the first closing braces names. -/
theorem atOpening?_eq_some_iff (rest : List Char) (segment : Segment) (behind : List Char) :
    atOpening? rest = some (segment, behind) ↔
      ∃ inner, FirstClosing rest inner behind ∧ ofInner? inner = some segment := by
  simp only [atOpening?, bind, Option.bind_eq_some_iff, pure, Option.some.injEq, Prod.mk.injEq]
  constructor
  · rintro ⟨⟨inner, behind⟩, closed, segment, named, rfl, rfl⟩
    exact ⟨inner, splitAtClosing_sound closed, named⟩
  · rintro ⟨inner, closed, named⟩
    exact ⟨(inner, behind), (splitAtClosing_eq_some_iff _ _ _).mpr closed, segment, named, rfl, rfl⟩

/-- There is no placeholder at an opening exactly when the braces open nothing. -/
theorem atOpening?_eq_none_iff (rest : List Char) :
    atOpening? rest = none ↔ OpensNothing rest := by
  cases closed : splitAtClosing rest with
  | none =>
    have absent := (splitAtClosing_eq_none_iff rest).mp closed
    simp [atOpening?, closed, OpensNothing, absent]
  | some parts =>
    obtain ⟨inner, behind⟩ := parts
    have found := splitAtClosing_sound closed
    have unread : atOpening? rest = none ↔ namedPath inner = [] := by
      rw [← ofInner?_eq_none_iff]
      cases named : ofInner? inner <;> simp [atOpening?, closed, named]
    rw [unread]
    constructor
    · intro nameless
      exact .inr (.inr ⟨inner, behind, found, nameless⟩)
    · rintro (absent | atOnce | ⟨inner', behind', found', nameless⟩)
      · exact absurd ⟨inner, behind, found.parts.symm⟩ absent
      · have short : inner.length ≤ 0 := found.first [] atOnce
        rw [List.eq_nil_of_length_eq_zero (Nat.le_zero.mp short)]
        decide
      · rw [(found.unique found').1]
        exact nameless

/-- The text of a placeholder with an opening brace in front of it names a path: that brace is
neither blank nor a minus sign nor a comma, so it begins the path. -/
theorem namedPath_cons_brace (inner : List Char) : namedPath ('\x7b' :: inner) ≠ [] := by
  intro nameless
  obtain ⟨rest, body⟩ : ∃ rest, trimmed ('\x7b' :: inner) = '\x7b' :: rest :=
    List.head?_eq_some_iff.mp (head?_trimmed_cons (by decide) inner)
  have begun : namedPath ('\x7b' :: inner) = trimmed ('\x7b' :: rest.takeWhile (· ≠ ',')) := by
    simp [namedPath, body, withoutMinus]
  have first : (namedPath ('\x7b' :: inner)).head? = some '\x7b' := by
    rw [begun]
    exact head?_trimmed_cons (by decide) _
  rw [nameless] at first
  cases first

/-- No placeholder begins at the front of a text. -/
def NoneBegins (s : List Char) : Prop :=
  ∀ rest, s = opening ++ rest → OpensNothing rest

/-- Braces that begin no placeholder do not hide one that begins with the second of them. -/
theorem NoneBegins.behind_brace {s : List Char} (none : NoneBegins ('\x7b' :: s)) :
    NoneBegins s := by
  rintro rest rfl
  have nothing := (atOpening?_eq_none_iff _).mpr (none ('\x7b' :: rest) rfl)
  apply (atOpening?_eq_none_iff rest).mp
  by_contra begun
  obtain ⟨⟨segment, behind⟩, found⟩ := Option.ne_none_iff_exists'.mp begun
  obtain ⟨inner, closed, -⟩ := (atOpening?_eq_some_iff _ _ _).mp found
  have wider : FirstClosing ('\x7b' :: rest) ('\x7b' :: inner) behind :=
    closed.cons (by simp [closing])
  have named := (ofInner?_eq_some_iff _ _).mpr ⟨namedPath_cons_brace inner, rfl⟩
  have opened := (atOpening?_eq_some_iff _ _ _).mpr ⟨_, wider, named⟩
  rw [nothing] at opened
  cases opened

end Phrasebook.Template
