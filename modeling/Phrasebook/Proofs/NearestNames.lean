import Phrasebook.Proofs.ByteOrder
import Phrasebook.Proofs.EditScripts

/-!
# The nearest names

Close to a target is a name that few edits lead to. The names that are suggested are the first
ones among the close names when these are ordered by the number of edits and then by their bytes.
No other list of names fits this description, so the order in which the names are given has no
part in it.
-/
namespace Phrasebook.Suggestion

open Text

/-- At most one edit leads to a close name, or at most two if the target has more than three
bytes. -/
def Close (target name : String) : Prop :=
  ∃ n ≤ if target.utf8ByteSize ≤ 3 then 1 else 2, Script n target.toList name.toList

/-- One name is not behind another: fewer edits lead to it, or as many and its bytes are smaller
unless the names are the same. -/
def NotBehind (target name other : String) : Prop :=
  ∃ m n, IsLeast {k | Script k target.toList name.toList} m ∧
    IsLeast {k | Script k target.toList other.toList} n ∧
    (m < n ∨ m = n ∧ (bytes name < bytes other ∨ name = other))

theorem close_iff {target name : String} :
    Close target name ↔ distance target.toList name.toList ≤ tolerance target := by
  constructor
  · intro close
    obtain ⟨n, few, script⟩ := close
    exact Nat.le_trans (distance_le_of_script script) few
  · intro few
    exact ⟨_, few, script_distance _ _⟩

theorem notBehind_iff {target name other : String} :
    NotBehind target name other ↔
      distance target.toList name.toList < distance target.toList other.toList ∨
        distance target.toList name.toList = distance target.toList other.toList ∧
          name ≤ other := by
  have least := distance_isLeast target.toList
  have order : bytes name < bytes other ∨ name = other ↔ name ≤ other := by
    rw [bytes_lt_iff, le_iff_lt_or_eq]
  constructor
  · intro notBehind
    obtain ⟨m, n, leastName, leastOther, before⟩ := notBehind
    rw [leastName.unique (least _), leastOther.unique (least _), order] at before
    exact before
  · intro before
    rw [← order] at before
    exact ⟨_, _, least _, least _, before⟩

instance (target : String) : DecidablePred (Close target) :=
  fun _ => decidable_of_iff _ close_iff.symm

instance (target : String) : DecidableRel (NotBehind target) :=
  fun _ _ => decidable_of_iff _ notBehind_iff.symm

theorem NotBehind.trans {target a b c : String} (first : NotBehind target a b)
    (second : NotBehind target b c) : NotBehind target a c := by
  rw [notBehind_iff] at *
  rcases first with nearer | ⟨level, first⟩
  · left
    omega
  · rcases second with nearer | ⟨level', second⟩
    · left
      omega
    · exact .inr ⟨level.trans level', le_trans first second⟩

theorem notBehind_total (target a b : String) : NotBehind target a b ∨ NotBehind target b a := by
  rw [notBehind_iff, notBehind_iff]
  rcases lt_trichotomy (distance target.toList a.toList) (distance target.toList b.toList) with
    nearer | level | farther
  · exact .inl (.inl nearer)
  · rcases le_total a b with smaller | greater
    · exact .inl (.inr ⟨level, smaller⟩)
    · exact .inr (.inr ⟨level.symm, greater⟩)
  · exact .inr (.inl farther)

theorem NotBehind.antisymm {target a b : String} (first : NotBehind target a b)
    (second : NotBehind target b a) : a = b := by
  rw [notBehind_iff] at *
  have level : distance target.toList a.toList = distance target.toList b.toList := by omega
  rw [level] at first second
  have smaller : a ≤ b := by simpa using first
  have greater : b ≤ a := by simpa using second
  exact le_antisymm smaller greater

def inOrder (target : String) (names : List String) : List String :=
  names.mergeSort fun a b => NotBehind target a b

theorem inOrder_perm (target : String) (names : List String) :
    (inOrder target names).Perm names :=
  List.mergeSort_perm _ _

theorem inOrder_pairwise (target : String) (names : List String) :
    (inOrder target names).Pairwise (NotBehind target) := by
  have sorted : (inOrder target names).Pairwise fun a b =>
      decide (NotBehind target a b) = true := by
    apply List.pairwise_mergeSort
    · intro a b c first second
      simp only [decide_eq_true_eq] at *
      exact first.trans second
    · intro a b
      simpa using notBehind_total target a b
  exact sorted.imp of_decide_eq_true

def ranked (target : String) (available : List String) : List String :=
  inOrder target (available.filter (Close target ·))

/-- There is one order of the close names. -/
theorem eq_ranked {target : String} {available names : List String}
    (perm : names.Perm (available.filter (Close target ·)))
    (ordered : names.Pairwise (NotBehind target)) : names = ranked target available := by
  apply List.Perm.eq_of_pairwise _ ordered (inOrder_pairwise target _)
  · exact perm.trans (inOrder_perm target _).symm
  · intro a b _ _ first second
    exact first.antisymm second

/-- A name with its distance, as it is kept until the names are in order. -/
def scored (target name : String) : Nat × String :=
  (distance target.toList name.toList, name)

theorem precedes_iff (a b : Nat × String) :
    precedes a b ↔ a.1 < b.1 ∨ a.1 = b.1 ∧ a.2 ≤ b.2 := by
  simp only [precedes, Bool.or_eq_true, Bool.and_eq_true, Bool.not_eq_true', decide_eq_true_eq,
    decide_eq_false_iff_not, beq_iff_eq, not_lt]

theorem filter_scored (target : String) (available : List String) :
    (available.map (scored target)).filter (fun candidate => candidate.1 ≤ tolerance target) =
      (available.filter (Close target ·)).map (scored target) := by
  rw [List.filter_map]
  congr 2
  funext name
  exact decide_eq_decide.mpr close_iff.symm

theorem mergeSort_scored (target : String) (names : List String) :
    (names.map (scored target)).mergeSort precedes =
      (inOrder target names).map (scored target) := by
  refine (List.map_mergeSort ?_).symm
  intro a _ b _
  rw [Bool.eq_iff_iff, decide_eq_true_eq, precedes_iff]
  exact notBehind_iff

/-- The first three of the close names in order are suggested. -/
theorem suggest_eq_take (target : String) (available : List String) :
    suggest target available = (ranked target available).take 3 := by
  change ((((available.map (scored target)).filter _).mergeSort precedes).take 3).map Prod.snd = _
  rw [filter_scored, mergeSort_scored, ← List.map_take, List.map_map]
  exact List.map_id _

/-- What it is for names to be the nearest ones: there are at most three, each of them is one of
the available names and close, they are in order, and they are all close names with their
repetitions but for those that are behind three others. -/
structure Nearest (target : String) (available found : List String) : Prop where
  few : found.length ≤ 3
  close : ∀ name ∈ found, name ∈ available ∧ Close target name
  ordered : found.Pairwise (NotBehind target)
  others : ∃ left, (found ++ left).Perm (available.filter (Close target ·)) ∧
    (∀ name ∈ found, ∀ other ∈ left, NotBehind target name other) ∧
    (left ≠ [] → found.length = 3)

/-- The first three of the ranked names are the nearest. -/
theorem nearest_take_ranked (target : String) (available : List String) :
    Nearest target available ((ranked target available).take 3) := by
  have perm : (ranked target available).Perm _ := inOrder_perm target _
  have parted := List.take_append_drop 3 (ranked target available)
  have ordered : (ranked target available).Pairwise _ := inOrder_pairwise target _
  rw [← parted] at perm ordered
  obtain ⟨front, -, cross⟩ := List.pairwise_append.mp ordered
  refine ⟨List.length_take_le 3 _, ?_, front, _, perm, cross, ?_⟩
  · intro name found
    have close := perm.mem_iff.mp (List.mem_append_left _ found)
    simpa using close
  · intro more
    have longer : 3 < (ranked target available).length := by
      simpa [List.drop_eq_nil_iff] using more
    rw [List.length_take]
    omega

/-- The nearest names are the first three of the close names in order, and no others. -/
theorem Nearest.eq_take {target : String} {available found : List String}
    (nearest : Nearest target available found) : found = (ranked target available).take 3 := by
  obtain ⟨left, perm, cross, full⟩ := nearest.others
  -- The names that are left out need not be in order.
  have whole : found ++ inOrder target left = ranked target available := by
    have reordered := inOrder_perm target left
    apply eq_ranked
    · exact (reordered.append_left found).trans perm
    · refine List.pairwise_append.mpr ⟨nearest.ordered, inOrder_pairwise target left, ?_⟩
      intro name inside other outside
      exact cross name inside other (reordered.mem_iff.mp outside)
  rw [← whole]
  cases left with
  | nil =>
    rw [inOrder, List.mergeSort_nil, List.append_nil, List.take_of_length_le nearest.few]
  | cons other left => rw [List.take_left' (full (List.cons_ne_nil _ _))]

/-- Which names are nearest does not depend on the order in which they are available. -/
theorem Nearest.of_perm {target : String} {available reordered found : List String}
    (perm : reordered.Perm available) (nearest : Nearest target reordered found) :
    Nearest target available found := by
  obtain ⟨left, whole, cross, full⟩ := nearest.others
  refine ⟨nearest.few, ?_, nearest.ordered, left, whole.trans (perm.filter _), cross, full⟩
  intro name inside
  obtain ⟨member, close⟩ := nearest.close name inside
  exact ⟨perm.mem_iff.mp member, close⟩

/-- What is suggested are the nearest of the available names. No other list is, and the order of
the available names makes no difference. -/
theorem suggests_nearest (target : String) (available : List String) :
    Nearest target available (suggest target available) ∧
      (∀ found, Nearest target available found → found = suggest target available) ∧
      ∀ reordered : List String, reordered.Perm available →
        suggest target reordered = suggest target available := by
  have nearest (names : List String) : Nearest target names (suggest target names) :=
    suggest_eq_take target names ▸ nearest_take_ranked target names
  have only {found : List String} (given : Nearest target available found) :
      found = suggest target available := by
    rw [suggest_eq_take, given.eq_take]
  refine ⟨nearest available, fun found given => only given, ?_⟩
  intro reordered perm
  exact only (.of_perm perm (nearest reordered))

/-- Four names at one edit, of which one is there twice, and one that is too far away. -/
theorem suggests_nearest_of_end :
    Nearest "end" ["mend", "ends", "and", "id", "and"] ["and", "and", "ends"] ∧
    ["and", "id", "mend", "and", "ends"].Perm ["mend", "ends", "and", "id", "and"] ∧
    suggest "end" ["and", "id", "mend", "and", "ends"] = ["and", "and", "ends"] := by
  have nearest : Nearest "end" ["mend", "ends", "and", "id", "and"] ["and", "and", "ends"] :=
    ⟨by decide, by decide, by decide, ["mend"], by decide, by decide, by decide⟩
  have perm : ["and", "id", "mend", "and", "ends"].Perm ["mend", "ends", "and", "id", "and"] := by
    decide
  obtain ⟨-, only, kept⟩ := suggests_nearest "end" ["mend", "ends", "and", "id", "and"]
  exact ⟨nearest, perm, (kept _ perm).trans (only _ nearest).symm⟩

end Phrasebook.Suggestion
