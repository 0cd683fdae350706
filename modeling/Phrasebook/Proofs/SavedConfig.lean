import Phrasebook.Proofs.JsonReadBack
import Phrasebook.Proofs.OrderedResources

/-!
# Saved configurations

The compact form of a configuration that was read is read as that configuration, if its resources
hold no floats: numbers that were read fit, names are ascending, and nothing nests deeper than it
did in the text that was read first.
-/
namespace Phrasebook

open Json NameMap

inductive Node.FloatFree : Node → Prop
  | text (phrase : String) : FloatFree (.text phrase)
  | bool (b : Bool) : FloatFree (.bool b)
  | integer (n : Int) : FloatFree (.number (.integer n))
  | null : FloatFree .null
  | group {children : List (String × Node)} (each : ∀ child ∈ children, FloatFree child.2) :
      FloatFree (.group children)

def Resources.FloatFree (r : Resources) : Prop :=
  ∀ locale ∈ r.tree, ∀ space ∈ locale.2, ∀ named ∈ space.2, named.2.FloatFree

/-! Nodes. -/

namespace Node

theorem groupToJson_eq (children : List (String × Node)) :
    groupToJson children = children.map fun child => (child.1, child.2.toJson) := by
  induction children with
  | nil => rfl
  | cons child rest ih => simp [groupToJson, ih]

section

variable {allowed : Number → Prop}

mutual

/-- The JSON form of a node that is read allows what the value in the text does. -/
theorem within_ofJson? {json : Json} {node : Node} {depth : Nat}
    (given : ofJson? json = some node) (within : json.Within allowed depth) :
    node.toJson.Within allowed depth := by
  cases json with
  | null => cases given; exact .null
  | bool b => cases given; exact .bool b
  | number n => cases given; exact within
  | string s => cases given; exact .string s
  | array items => cases given
  | object members =>
    simp only [ofJson?, Option.bind_eq_bind, Option.bind_eq_some_iff] at given
    obtain ⟨children, readChildren, same⟩ := given
    cases same
    cases within with
    | @object inner _ each =>
      have kept := orderedOf_ofList (P := fun node : Node => node.toJson.Within allowed inner)
        (within_groupOfJson? readChildren each)
      rw [toJson, groupToJson_eq]
      exact .object (List.forall_mem_map.mpr kept.each)

theorem within_groupOfJson? {members : List (String × Json)} {children : List (String × Node)}
    {depth : Nat} (given : groupOfJson? members = some children)
    (each : ∀ member ∈ members, member.2.Within allowed depth) :
    ∀ child ∈ children, child.2.toJson.Within allowed depth := by
  cases members with
  | nil =>
    cases given
    exact nofun
  | cons member rest =>
    simp only [groupOfJson?, Option.bind_eq_bind, Option.bind_eq_some_iff] at given
    obtain ⟨node, readNode, others, readOthers, same⟩ := given
    cases same
    obtain ⟨first, later⟩ := List.forall_mem_cons.mp each
    exact List.forall_mem_cons.mpr
      ⟨within_ofJson? readNode first, within_groupOfJson? readOthers later⟩

end

end

/-- What holds of every node that is read with room for `depth` containers. -/
structure Stored (depth : Nat) (node : Node) : Prop where
  ordered : node.Ordered
  within : node.toJson.Within Number.Fits depth

theorem gives_stored (depth : Nat) : (Node.reader depth).Gives (Stored depth) := by
  intro s node rest done
  have ordered := gives_reader depth done
  obtain ⟨⟨json, behind⟩, read, done⟩ := bind_eq_ok done
  cases given : ofJson? json with
  | none => simp [given] at done
  | some found =>
    simp only [given] at done
    cases done
    exact ⟨ordered, within_ofJson? given (gives_value depth read)⟩

theorem FloatFree.whole {node : Node} (free : node.FloatFree) {depth : Nat}
    (within : node.toJson.Within Number.Fits depth) : node.toJson.Within Number.Whole depth := by
  induction free generalizing depth with
  | text phrase => exact .string phrase
  | bool b => exact .bool b
  | null => exact .null
  | integer n =>
    cases within with
    | number fits =>
      obtain ⟨low, high⟩ := fits
      exact .number (.integer low high)
  | group each ih =>
    rw [toJson, groupToJson_eq] at within ⊢
    cases within with
    | object parts =>
      refine .object (List.forall_mem_map.mpr fun child inside => ?_)
      exact ih child inside (List.forall_mem_map.mp parts child inside)

/-- A node is the node of its JSON form. -/
theorem ofJson?_toJson {node : Node} (ordered : node.Ordered) :
    ofJson? node.toJson = some node := by
  induction ordered with
  | @group children ascending each ih =>
    have parts : groupOfJson? (groupToJson children) = some children := by
      clear each ascending
      induction children with
      | nil => rfl
      | cons child rest ihRest =>
        obtain ⟨first, others⟩ := List.forall_mem_cons.mp ih
        simp [groupToJson, groupOfJson?, first, ihRest others]
    simp [toJson, ofJson?, parts, ofList_of_ascending ascending]
  | _ => rfl

theorem Stored.reads {depth : Nat} {node : Node} (stored : node.Stored depth)
    (free : node.FloatFree) : (Node.reader depth).Reads node.toJson.write node := by
  have value := reads_value (free.whole stored.within)
  refine ⟨value.opens, fun rest delimited => ?_⟩
  rw [reader, value.reads rest delimited]
  simp only [bind, Except.bind, ofJson?_toJson stored.ordered]
  rfl

end Node

/-- A level of names is read back if everything below the names is. -/
theorem reads_level {α : Type} {value : Reader α} {f : α → Json} {Stored Free : α → Prop}
    (reads : ∀ a, Stored a → Free a → value.Reads (f a).write a) (m : NameMap α)
    (stored : OrderedOf Stored m) (free : ∀ pair ∈ m, Free pair.2) :
    (mapOf value).Reads (object (m.map fun pair => (pair.1, f pair.2))).write m :=
  reads_mapOf
    { ascending := stored.ascending
      each := fun pair inside => reads pair.2 (stored.each pair inside) (free pair inside) }

namespace Resources

def Stored (depth : Nat) (r : Resources) : Prop :=
  OrderedOf (OrderedOf (OrderedOf (Node.Stored (depth - 3)))) r.tree

theorem Stored.reads {depth : Nat} {r : Resources} (stored : r.Stored depth)
    (free : r.FloatFree) : (Resources.reader depth).Reads r.toJson.write r := by
  have tree := reads_level (reads_level (reads_level fun _ => Node.Stored.reads)) r.tree stored free
  refine ⟨tree.opens, fun rest delimited => ?_⟩
  have read : mapOf (mapOf (mapOf (Node.reader (depth - 3)))) (r.toJson.write ++ rest) =
      .ok (r.tree, rest) := tree.reads rest delimited
  rw [reader, read]
  rfl

end Resources

/-! Configurations. -/

namespace Config

theorem reads_fieldOnce {α : Type} {reader : Reader α} {shown : List Char} {a : α}
    (reads : reader.Reads shown a) (name : String) {rest : List Char}
    (delimited : Delimited rest) :
    fieldOnce name none reader (':' :: (shown ++ rest)) = .ok (a, rest) :=
  reads.reads rest delimited

/-- The text of a field, which is read into a draft. -/
def Draft.Takes (draft : Draft) (text : List Char) (grown : Draft) : Prop :=
  ∃ name shown, text = writeString name ++ ':' :: shown ∧
    ∀ rest, Delimited rest → member draft name (':' :: (shown ++ rest)) = .ok (grown, rest)

/-- The texts of fields lead from one draft to another. -/
inductive Draft.Leads : Draft → List (List Char) → Draft → Prop
  | done (draft : Draft) : Leads draft [] draft
  | field {draft grown final : Draft} {text : List Char} {texts : List (List Char)}
      (takes : draft.Takes text grown) (others : Leads grown texts final) :
      Leads draft (text :: texts) final

theorem membersInto_step {bound : Nat} {first : Bool} {draft grown final : Draft}
    {s t u rest : List Char} {name : String} (next : nextKey first s = .ok (some name, t))
    (read : member draft name t = .ok (grown, u))
    (others : membersInto bound false grown u = .ok (final, rest)) :
    membersInto (bound + 1) first draft s = .ok (final, rest) := by
  rw [membersInto, next]
  change (member draft name t >>= _) = _
  rw [read]
  exact others

/-- Fields that lead from one draft to another are read from the first to the other. -/
theorem membersInto_joined {draft final : Draft} {texts : List (List Char)}
    (leads : draft.Leads texts final) {bound : Nat} (enough : texts.length < bound) (first : Bool)
    (rest : List Char) :
    membersInto bound first draft (joined first texts ++ '\x7d' :: rest) = .ok (final, rest) := by
  induction leads generalizing bound first with
  | done draft =>
    obtain ⟨bound, rfl⟩ := Nat.exists_eq_add_of_lt enough
    cases first <;> rfl
  | @field draft grown final text texts takes _ ih =>
    obtain ⟨bound, rfl⟩ := Nat.exists_eq_succ_of_ne_zero (Nat.ne_zero_of_lt enough)
    obtain ⟨name, shown, rfl, read⟩ := takes
    have ends := delimited_joined texts (c := '\x7d') (by decide) rest
    rw [joined, List.append_assoc, List.append_assoc, List.append_assoc]
    exact membersInto_step (nextKey_comma first name _) (read _ ends)
      (ih (Nat.lt_of_succ_lt_succ enough) false)

theorem takes_of_reads {α : Type} {draft : Draft} (name : String) {reader : Reader α}
    (grow : α → Draft)
    (field : ∀ s, member draft name s = do
      let (found, rest) ← fieldOnce name none reader s
      return (grow found, rest))
    {shown : List Char} {a : α} (reads : reader.Reads shown a) :
    draft.Takes (writeString name ++ ':' :: shown) (grow a) := by
  refine ⟨name, shown, rfl, fun rest delimited => ?_⟩
  rw [field, reads_fieldOnce reads name delimited]
  rfl

/-- The draft that has every field of a configuration. -/
def draft (config : Config) : Draft where
  resources? := some config.resources
  defaultLocale? := some config.defaultLocale
  defaultNamespace? := some config.defaultNamespace
  escapesValues? := some config.escapesValues
  fallbackLocales? := some config.fallbackLocales

/-- A written configuration is an object, whose members fill its draft. -/
theorem leads_toJson {config : Config}
    (resources : resourcesField.Reads config.resources.toJson.write config.resources) :
    ∃ members, config.toJson = .object members ∧
      Draft.Leads {} (members.map fun member => writeString member.1 ++ ':' :: member.2.write)
        config.draft := by
  have locales : (arrayOf stringValue).Reads (array (config.fallbackLocales.map .string)).write
      config.fallbackLocales := reads_arrayOf fun locale _ => reads_string locale
  refine ⟨_, rfl, ?_⟩
  -- Every field is new to the draft that the fields before it have filled.
  refine .field (takes_of_reads "translationResources"
    (fun found => ⟨some found, none, none, none, none⟩) (fun _ => rfl) resources) ?_
  refine .field (takes_of_reads "defaultLocale"
    (fun found => ⟨_, some found, none, none, none⟩) (fun _ => rfl) (reads_string _)) ?_
  refine .field (takes_of_reads "defaultNamespace"
    (fun found => ⟨_, _, some found, none, none⟩) (fun _ => rfl) (reads_string _)) ?_
  refine .field (takes_of_reads "escapeValue"
    (fun found => ⟨_, _, _, some found, none⟩) (fun _ => rfl) (reads_bool _)) ?_
  refine .field (takes_of_reads "fallbackLocales"
    (fun found => ⟨_, _, _, _, some found⟩) (fun _ => rfl) locales) ?_
  exact .done config.draft

/-- A configuration is read back from its fields in their fixed order. -/
theorem reads_toJson {config : Config}
    (resources : resourcesField.Reads config.resources.toJson.write config.resources) :
    reader.Reads config.toJson.write config := by
  obtain ⟨members, object, leads⟩ := leads_toJson resources
  rw [object]
  refine ⟨⟨'\x7b', _, rfl, rfl, by decide⟩, fun rest _ => ?_⟩
  have read := membersInto_joined leads (length_lt_joined _ '\x7d' rest) true rest
  have written : (Json.object members).write ++ rest = '\x7b' :: (joined true (members.map
      fun member => writeString member.1 ++ ':' :: member.2.write) ++ '\x7d' :: rest) := by
    rw [write, writeMembers_eq, List.append_assoc]
    rfl
  rw [written]
  change (membersInto _ true {} (joined true _ ++ '\x7d' :: rest) >>= _) = _
  rw [read]
  rfl

/-- What is read has numbers that fit, ascending names and room for its containers. -/
theorem stored_of_read {text : String} {config : Config} (done : read text = .ok config) :
    config.resources.Stored (depthLimit - 1) :=
  gives_whole (gives_reader (orderedOf_nil _) (Resources.gives_reader (Node.gives_stored _))) done

/-- Saving a configuration and loading it again loses nothing: the compact form of what was loaded
from a text is loaded as the same configuration, whose compact form is the same text again. -/
theorem reloads_saved {text : String} {config : Config}
    (loaded : ofText textOrigin text = .ok config) (free : config.resources.FloatFree) :
    ofText textOrigin config.toJson.compact = .ok config ∧
      ∀ again, ofText textOrigin config.toJson.compact = .ok again →
        again.toJson.compact = config.toJson.compact := by
  have stored := stored_of_read (mapError_eq_ok_iff.mp loaded)
  have reread : ofText textOrigin config.toJson.compact = .ok config := by
    rw [ofText, read, Json.compact, whole_of_reads (reads_toJson (stored.reads free))]
    rfl
  refine ⟨reread, fun again reloaded => ?_⟩
  cases reread.symm.trans reloaded
  rfl

/-- Two fields out of order, a name twice, an escape, and leaves of every kind but a float. -/
def menuText : String :=
  "\x7b\"defaultLocale\":\"de\",\"translationResources\":\x7b\"de\":\x7b\"menu\":\x7b" ++
    "\"save\":\"Save\", \"off\":null,\"save\":\"S\\u0069chern\"," ++
    "\"size\":\x7b\"px\":-8,\"max\":true\x7d\x7d\x7d\x7d\x7d"

def menu : Config where
  resources := ⟨[("de", [("menu", [("off", .null), ("save", .text "Sichern"),
    ("size", .group [("max", .bool true), ("px", .number (.integer (-8)))])])])]⟩
  defaultLocale := "de"

theorem reloads_saved_of_menu :
    ofText textOrigin menuText = .ok menu ∧ menu.resources.FloatFree ∧
      ofText textOrigin menu.toJson.compact = .ok menu := by
  have loaded : ofText textOrigin menuText = .ok menu := by decide +kernel
  have free : menu.resources.FloatFree := by
    have size : ∀ child ∈ [("max", Node.bool true), ("px", Node.number (.integer (-8)))],
        child.2.FloatFree :=
      List.forall_mem_cons.mpr ⟨.bool true, List.forall_mem_singleton.mpr (.integer (-8))⟩
    refine List.forall_mem_singleton.mpr (List.forall_mem_singleton.mpr ?_)
    simp only [List.forall_mem_cons]
    exact ⟨.null, .text "Sichern", .group size, nofun⟩
  exact ⟨loaded, free, (reloads_saved loaded free).1⟩

end Config

end Phrasebook
