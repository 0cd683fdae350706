import Phrasebook.Json.Typed
import Phrasebook.Proofs.JsonTokens
import Phrasebook.Proofs.NameMaps
import Phrasebook.Proofs.Results

/-!
# What readers give

A property of everything that a reader gives carries over from the readers of the parts to the
reader of the whole. The values that are read nest no deeper than the reader is told, and their
numbers fit.
-/
namespace Phrasebook

open NameMap

namespace Json

/-- Whatever a reader gives satisfies `P`. -/
def Reader.Gives {α : Type} (P : α → Prop) (reader : Reader α) : Prop :=
  ∀ ⦃s a rest⦄, reader s = .ok (a, rest) → P a

theorem gives_itemsWithin {α : Type} {P : α → Prop} {item : Reader α} (gives : item.Gives P)
    (bound : Nat) (first : Bool) :
    Reader.Gives (fun found => ∀ a ∈ found, P a) (itemsWithin item bound first) := by
  induction bound generalizing first with
  | zero => exact nofun
  | succ bound ih =>
    intro s found rest done
    rw [itemsWithin] at done
    obtain ⟨⟨more, behind⟩, -, done⟩ := bind_eq_ok done
    cases more with
    | false =>
      cases done
      exact nofun
    | true =>
      obtain ⟨⟨a, behind⟩, read, done⟩ := bind_eq_ok done
      obtain ⟨⟨others, behind⟩, readOthers, done⟩ := bind_eq_ok done
      cases done
      exact List.forall_mem_cons.mpr ⟨gives read, ih false readOthers⟩

theorem gives_membersWithin {α : Type} {P : α → Prop} {value : Reader α} (gives : value.Gives P)
    (bound : Nat) (first : Bool) :
    Reader.Gives (fun found => ∀ pair ∈ found, P pair.2) (membersWithin value bound first) := by
  induction bound generalizing first with
  | zero => exact nofun
  | succ bound ih =>
    intro s found rest done
    rw [membersWithin] at done
    obtain ⟨⟨name?, behind⟩, -, done⟩ := bind_eq_ok done
    cases name? with
    | none =>
      cases done
      exact nofun
    | some name =>
      obtain ⟨behindColon, -, done⟩ := bind_eq_ok done
      obtain ⟨⟨a, behind⟩, read, done⟩ := bind_eq_ok done
      obtain ⟨⟨others, behind⟩, readOthers, done⟩ := bind_eq_ok done
      cases done
      exact List.forall_mem_cons.mpr ⟨gives read, ih false readOthers⟩

/-- An object is read into a map with ascending names. -/
theorem gives_mapOf {α : Type} {P : α → Prop} {value : Reader α} (gives : value.Gives P) :
    Reader.Gives (OrderedOf P) (mapOf value) := by
  intro s m rest done
  unfold mapOf at done
  split at done
  · obtain ⟨⟨found, behind⟩, read, done⟩ := map_eq_ok_iff.mp done
    cases done
    exact orderedOf_ofList (gives_membersWithin gives _ _ read)
  · cases done

theorem gives_whole {α : Type} {P : α → Prop} {reader : Reader α} (gives : reader.Gives P)
    {text : String} {a : α} (done : whole reader text = .ok a) : P a := by
  obtain ⟨⟨found, behind⟩, inside, done⟩ := bind_eq_ok done
  cases left : skipSpace behind with
  | nil =>
    simp only [left] at done
    cases done
    exact gives inside
  | cons c others => simp [left] at done

/-- A value nests at most `depth` containers, and all its numbers are allowed. -/
inductive Within (allowed : Number → Prop) : Nat → Json → Prop
  | null {depth : Nat} : Within allowed depth .null
  | bool {depth : Nat} (b : Bool) : Within allowed depth (.bool b)
  | number {depth : Nat} {n : Number} (fits : allowed n) : Within allowed depth (.number n)
  | string {depth : Nat} (s : String) : Within allowed depth (.string s)
  | array {depth : Nat} {items : List Json} (each : ∀ item ∈ items, Within allowed depth item) :
      Within allowed (depth + 1) (.array items)
  | object {depth : Nat} {members : List (String × Json)}
      (each : ∀ member ∈ members, Within allowed depth member.2) :
      Within allowed (depth + 1) (.object members)

theorem gives_valueWith {depth : Nat} {array : Reader (List Json)}
    {object : Reader (List (String × Json))}
    (arrays : array.Gives fun items => Within Number.Fits depth (.array items))
    (objects : object.Gives fun members => Within Number.Fits depth (.object members)) :
    (valueWith array object).Gives (Within Number.Fits depth) := by
  intro s j rest done
  unfold valueWith at done
  split at done
  · cases done
  · obtain ⟨_, -, done⟩ := map_eq_ok_iff.mp done
    cases done
    exact .null
  -- The words for the truth values.
  iterate 2
    · obtain ⟨_, -, done⟩ := map_eq_ok_iff.mp done
      cases done
      exact .bool _
  · obtain ⟨_, -, done⟩ := map_eq_ok_iff.mp done
    cases done
    exact .string _
  · obtain ⟨_, read, done⟩ := map_eq_ok_iff.mp done
    cases done
    exact arrays read
  · obtain ⟨_, read, done⟩ := map_eq_ok_iff.mp done
    cases done
    exact objects read
  · split at done
    · obtain ⟨_, read, done⟩ := map_eq_ok_iff.mp done
      cases done
      exact .number (fits_of_numberText read)
    · cases done

/-- The values that are read nest no deeper than allowed, and their numbers fit. -/
theorem gives_value (depth : Nat) : (value depth).Gives (Within Number.Fits depth) := by
  induction depth with
  | zero => exact gives_valueWith nofun nofun
  | succ depth ih =>
    refine gives_valueWith (fun s items rest read => ?_) (fun s members rest read => ?_)
    · exact .array (gives_itemsWithin ih _ _ read)
    · exact .object (gives_membersWithin ih _ _ read)

end Json

end Phrasebook
