import Phrasebook.Tag.Extension

/-!
# What a call of the tag does

The effects of a call are those of one body producer at most, and what comes out is a translation
whose locale, key and parameters are read off the list of arguments. Nothing else in the list
counts. The statements hold in every lawful monad, so a producer may do whatever a host does. It
may use the extension that calls it as well, and change the active locale that way: a call that
succeeds makes its own locale active over that, and one that fails leaves what its body has left.
-/
namespace Phrasebook.Tag

open Text

variable {m : Type → Type}

namespace Call

/-- The arguments between a leading context and the last argument. -/
def between (arguments : List (Argument m)) : List (Argument m) :=
  (withoutContext arguments).dropLast

/-- The value in a place between: a context counts as its value, and a body or nothing as null. -/
def slot (arguments : List (Argument m)) (i : Nat) : Value :=
  match (between arguments)[i]? with
  | some (.context v) => v
  | some (.value v) => v
  | some (.body _) => .null
  | none => .null

def localeFrom (e : Extension) : Value → String
  | .string s => if trim s = "" then e.config.defaultLocale else trim s
  | _ => e.config.defaultLocale

def paramsFrom : Value → Params
  | .map entries => entries
  | _ => []

/-- The effect that gives the key: the last argument if that is a body, none for the empty key. -/
def keyOf [Monad m] (arguments : List (Argument m)) : m (Except String String) :=
  match (withoutContext arguments).getLast? with
  | some (.body produce) => produce
  | _ => pure (.ok "")

theorem slot_eq_slotValue (arguments : List (Argument m)) (i : Nat) :
    slot arguments i = ((between arguments)[i]?.map Argument.slotValue).getD .null := by
  rw [slot]
  cases (between arguments)[i]? with
  | none => rfl
  | some argument => cases argument <;> rfl

theorem ofArguments_params (arguments : List (Argument m)) :
    (ofArguments arguments).1.params = paramsFrom (slot arguments 1) := by
  have given : ∀ v? : Option Value, (paramsOf v?).1 = paramsFrom (v?.getD .null) := by
    intro v?
    rcases v? with _ | v
    · rfl
    · cases v <;> rfl
  simp only [ofArguments, slot_eq_slotValue, between, given, List.getElem?_map]

theorem ofArguments_locale (e : Extension) (arguments : List (Argument m)) :
    (ofArguments arguments).1.locale?.getD e.config.defaultLocale =
      localeFrom e (slot arguments 0) := by
  have named : ∀ v? : Option Value, (v?.bind Value.asLocale?).getD e.config.defaultLocale =
      localeFrom e (v?.getD .null) := by
    intro v?
    rcases v? with _ | v
    · rfl
    · cases v with
      | string s =>
        simp only [Option.bind_some, Value.asLocale?, localeFrom, Option.getD_some]
        split <;> rfl
      | _ => rfl
  simp only [ofArguments, slot_eq_slotValue, between, named, List.head?_eq_getElem?,
    List.getElem?_map]

/-- Taking the key has the effects of the last body and no others. -/
theorem takeKey_ofArguments [Monad m] [LawfulMonad m] (arguments : List (Argument m)) :
    Prod.fst <$> (ofArguments arguments).1.takeKey =
      Except.mapError CallError.body <$> keyOf arguments := by
  have body : (ofArguments arguments).1.body? = (bodyOf (withoutContext arguments)).1 := rfl
  simp only [takeKey, keyOf, body, bodyOf]
  cases (withoutContext arguments).getLast? with
  | none =>
    simp only [map_pure]
    rfl
  | some last =>
    cases last with
    | body produce =>
      simp only [map_bind, map_pure]
      exact (map_eq_pure_bind _ _).symm
    | _ =>
      simp only [map_pure]
      rfl

/-- Behind the parameters only the last argument counts. -/
theorem ofArguments_surplus {context? : Option Value} {first : Argument m}
    (leads : context? = none → ∀ v, first ≠ .context v) (second last : Argument m)
    (surplus surplus' : List (Argument m)) :
    ofArguments (context?.toList.map .context ++ first :: second :: (surplus ++ [last])) =
      ofArguments (context?.toList.map .context ++ first :: second :: (surplus' ++ [last])) := by
  have dropped : ∀ rest, withoutContext (context?.toList.map .context ++ first :: rest) =
      first :: rest := by
    intro rest
    cases context? with
    | some v => rfl
    | none =>
      cases first with
      | context v => exact absurd rfl (leads rfl v)
      | value v => rfl
      | body produce => rfl
  have whole : ∀ others : List (Argument m),
      first :: second :: (others ++ [last]) = (first :: second :: others) ++ [last] := by
    intro others
    rfl
  have ends : ∀ others : List (Argument m),
      bodyOf (first :: second :: (others ++ [last])) = bodyOf [last] := by
    intro others
    simp only [bodyOf, whole, List.getLast?_concat, List.getLast?_singleton]
  have values : ∀ others : List (Argument m),
      (first :: second :: (others ++ [last])).dropLast = first :: second :: others := by
    intro others
    rw [whole, List.dropLast_concat]
  simp [ofArguments, dropped, ends, values]

/-! Bodies that leave the extension alone. -/

variable {σ : Type} [Monad m]

theorem withoutContext_lift (arguments : List (Argument m)) :
    withoutContext (arguments.map (Argument.lift (σ := σ))) =
      (withoutContext arguments).map .lift := by
  cases arguments with
  | nil => rfl
  | cons first rest => cases first <;> rfl

/-- What a call is told does not depend on what else its host can do. -/
theorem ofArguments_lift (arguments : List (Argument m)) :
    let lifted := ofArguments (arguments.map (Argument.lift (σ := σ)))
    lifted.1.locale? = (ofArguments arguments).1.locale? ∧
      lifted.1.params = (ofArguments arguments).1.params ∧
      lifted.2 = (ofArguments arguments).2 := by
  intro lifted
  have values : (((withoutContext arguments).map (Argument.lift (σ := σ))).dropLast.map
      Argument.slotValue) = (withoutContext arguments).dropLast.map Argument.slotValue := by
    rw [← List.map_dropLast, List.map_map]
    apply List.map_congr_left
    intro argument _
    cases argument <;> rfl
  have events : (bodyOf ((withoutContext arguments).map (Argument.lift (σ := σ)))).2 =
      (bodyOf (withoutContext arguments)).2 := by
    simp only [bodyOf, List.getLast?_map]
    cases (withoutContext arguments).getLast? with
    | none => rfl
    | some last => cases last <;> rfl
  simp only [lifted, ofArguments, withoutContext_lift, values, events, and_self]

theorem keyOf_lift [LawfulMonad m] (arguments : List (Argument m)) :
    keyOf (arguments.map (Argument.lift (σ := σ))) = StateT.lift (keyOf arguments) := by
  have plain : (pure (.ok "") : StateT σ m (Except String String)) =
      StateT.lift (pure (.ok "")) := by
    funext state
    have spread := pure_bind (m := m) (Except.ok "" : Except String String)
      fun produced => pure (produced, state)
    exact spread.symm
  simp only [keyOf, withoutContext_lift, List.getLast?_map]
  cases (withoutContext arguments).getLast? with
  | none => exact plain
  | some last =>
    cases last with
    | body produce => rfl
    | _ => exact plain

end Call

def Outcome.observed (o : Outcome) : Except CallError SafeText × Extension :=
  (o.result, o.extension)

namespace Extension

/-- What a call makes of the key it has taken. -/
def outcome (e : Extension) (call : Call m) (events : List Event) :
    Except CallError String → Outcome
  | .error error => ⟨.error error, e, events⟩
  | .ok key =>
    let (rendered, after) := e.translateText key call.locale? call.params
    ⟨.ok ⟨rendered.text⟩, after, events ++ rendered.missing.map .missingParameter⟩

/-- Of the locale of a call only what it comes down to matters, and its body does not. -/
theorem outcome_congr {n : Type → Type} (e : Extension) {call : Call m} {call' : Call n}
    (locale : call.locale?.getD e.config.defaultLocale =
      call'.locale?.getD e.config.defaultLocale)
    (params : call.params = call'.params) (events : List Event) :
    e.outcome call events = e.outcome call' events := by
  funext produced
  cases produced with
  | error reason => rfl
  | ok key => simp only [outcome, translateText, locale, params]

variable [Monad m] [LawfulMonad m]

/-- A call goes on where its body has stopped, with the locale that this has left active. -/
theorem run_transShared (e : Extension) (arguments : List (Argument (StateT String m)))
    (active : String) :
    (e.transShared arguments).run active =
      (fun taken : Except CallError String × String =>
        let o := (e.activate taken.2).outcome (Call.ofArguments arguments).1
          (Call.ofArguments arguments).2 taken.1
        ((o.result, o.events), o.extension.translator.active)) <$>
      (Except.mapError CallError.body <$> Call.keyOf arguments).run active := by
  rw [← Call.takeKey_ofArguments, StateT.run_map, ← comp_map, map_eq_pure_bind]
  unfold transShared
  rw [StateT.run_bind]
  apply bind_congr
  rintro ⟨⟨taken, left⟩, after⟩
  cases taken with
  | error error => rfl
  | ok key => exact pure_bind _ _

/-- A call whose body leaves the extension alone makes its outcome of the key alone. -/
theorem trans_eq_map (e : Extension) (arguments : List (Argument m)) :
    e.trans arguments =
      e.outcome (Call.ofArguments arguments).1 (Call.ofArguments arguments).2 <$>
        Except.mapError CallError.body <$> Call.keyOf arguments := by
  obtain ⟨locale, params, events⟩ := Call.ofArguments_lift (σ := String) arguments
  have same : e.outcome (Call.ofArguments (arguments.map (Argument.lift (σ := String)))).1 =
      e.outcome (Call.ofArguments arguments).1 := by
    funext given
    exact outcome_congr e (by rw [locale]) params given
  have unchanged : e.activate e.translator.active = e := rfl
  rw [trans, outcomeOf, run_transShared, Call.keyOf_lift, StateT.run_map, StateT.run_lift]
  simp only [map_bind, map_pure, bind_assoc, pure_bind, ← comp_map]
  rw [map_eq_pure_bind]
  apply bind_congr
  intro produced
  rw [unchanged, same, events]
  cases produced with
  | error reason => rfl
  | ok key => rfl

omit [LawfulMonad m] in
theorem call_methodName (e : Extension) (arguments : List (Argument m)) :
    e.call methodName arguments = e.trans arguments := by
  rw [call, callShared, if_pos rfl]
  rfl

theorem call_of_ne (e : Extension) {method : String} (unknown : method ≠ methodName)
    (arguments : List (Argument m)) :
    e.call method arguments = pure ⟨.error (.unknownMethod extensionName method), e, []⟩ := by
  rw [call, callShared, if_neg unknown]
  exact pure_bind _ _

/-- The result of a call in a locale and the locale that is active afterwards, by what the body
gives and the locale that this leaves active. -/
def settle (e : Extension) (locale : String) (params : Params) :
    Except String String × String → Except CallError SafeText × String
  | (.error reason, left) => (.error (.body reason), left)
  | (.ok key, _) => (.ok ⟨(e.translator.translate locale key params).text⟩, locale)

/-- What a call gives in a locale whose body leaves the extension alone, and the extension
afterwards, by what the body gives. -/
def answerIn (e : Extension) (locale : String) (params : Params)
    (produced : Except String String) : Except CallError SafeText × Extension :=
  let (result, active) := e.settle locale params (produced, e.translator.active)
  (result, { e with translator := { e.translator with active } })

/-- A call settles the key that its body gives, from the locale that this leaves active. -/
theorem settle_run_transShared (e : Extension) (arguments : List (Argument (StateT String m)))
    (active : String) :
    (fun r => (r.1.1, r.2)) <$> (e.transShared arguments).run active =
      e.settle (Call.localeFrom e (Call.slot arguments 0))
        (Call.paramsFrom (Call.slot arguments 1)) <$> (Call.keyOf arguments).run active := by
  have locale := Call.ofArguments_locale e arguments
  have params := Call.ofArguments_params arguments
  rw [run_transShared, StateT.run_map, ← comp_map, ← comp_map]
  congr 1
  funext produced
  obtain ⟨produced, left⟩ := produced
  cases produced with
  | error reason => rfl
  | ok key =>
    rw [← locale, ← params]
    rfl

/-- A call with a body that leaves the extension alone answers in the locale that its arguments ask
for. -/
theorem observed_trans_eq_answerIn (e : Extension) (arguments : List (Argument m)) :
    Outcome.observed <$> e.trans arguments =
      e.answerIn (Call.localeFrom e (Call.slot arguments 0))
        (Call.paramsFrom (Call.slot arguments 1)) <$> Call.keyOf arguments := by
  have locale := Call.ofArguments_locale e arguments
  have params := Call.ofArguments_params arguments
  rw [trans_eq_map, ← comp_map, ← comp_map]
  congr 1
  funext produced
  cases produced with
  | error reason => rfl
  | ok key =>
    rw [← locale, ← params]
    rfl

/-- A call has the effects of its last body and no others, and what comes of it is settled by what
this gives. It fails where the body does, and then the locale stays active that the body has left;
else it translates the key, and its own locale is active afterwards, whatever the body has left. So
where a body fails that leaves the extension alone, the extension is unchanged. The value of a
leading context and the arguments between the parameters and the last one do not matter. -/
theorem trans_settles_key (e : Extension) :
    (∀ (arguments : List (Argument (StateT String m))) (active : String),
      (fun r => (r.1.1, r.2)) <$> (e.transShared arguments).run active =
        e.settle (Call.localeFrom e (Call.slot arguments 0))
          (Call.paramsFrom (Call.slot arguments 1)) <$> (Call.keyOf arguments).run active) ∧
    (∀ arguments : List (Argument m),
      Outcome.observed <$> e.trans arguments =
        e.answerIn (Call.localeFrom e (Call.slot arguments 0))
          (Call.paramsFrom (Call.slot arguments 1)) <$> Call.keyOf arguments) ∧
    (∀ (v w : Value) (rest : List (Argument (StateT String m))),
      e.transShared (.context v :: rest) = e.transShared (.context w :: rest)) ∧
    ∀ (context? : Option Value) (first second last : Argument (StateT String m))
      (surplus surplus' : List (Argument (StateT String m))),
      (context? = none → ∀ v, first ≠ .context v) →
      e.transShared (context?.toList.map .context ++ first :: second :: (surplus ++ [last])) =
        e.transShared
          (context?.toList.map .context ++ first :: second :: (surplus' ++ [last])) := by
  refine ⟨settle_run_transShared e, observed_trans_eq_answerIn e, fun _ _ _ => rfl, ?_⟩
  intro context? first second last surplus surplus' leads
  unfold transShared
  rw [Call.ofArguments_surplus leads second last surplus surplus']

/-- An extension whose German texts greet by name. -/
def greeting : Extension where
  config := { defaultLocale := "en" }
  translator := {
    catalog := ⟨[("de", [("translation", ⟨[("hello", ⟨"Hallo, \x7b\x7bname\x7d\x7d",
      ⟨[.literal "Hallo, ", .placeholder "name" false]⟩, false⟩)]⟩)])]⟩
    fallbackLocales := ["en"]
    defaultNamespace := "translation"
    escapesValues := true
    active := "en" }

/-- A body of a host that logs which bodies it produces. -/
def logged (name : String) (produced : Except String String) :
    StateM (List String) (Except String String) :=
  fun log => (produced, log ++ [name])

/-- A body with a tag in it, which is evaluated by the same extension. -/
def nested (e : Extension) (locale : String) (produced : Except String String) :
    StateT String (StateM (List String)) (Except String String) := do
  let _ ← e.transShared
    [.value (.string locale), .value .null, .body (StateT.lift (logged "inner" (.ok "hello")))]
  StateT.lift (logged "outer" produced)

theorem trans_settles_key_of_greeting :
    let called (first : Argument (StateT String (StateM (List String))))
        (produced : Except String String) :=
      ((fun r => (r.1.1, r.2)) <$> (greeting.transShared [first,
        .value (.map [("name", .string "Ada")]), .body (nested greeting "fr" produced)]).run
          "en").run []
    let alone (produced : Except String String) :=
      (Outcome.observed <$> greeting.trans [.value (.string " de "),
        .value (.map [("name", .string "Ada")]), .body (logged "unused" (.error "unused")),
        .body (logged "key" produced)]).run []
    LawfulMonad (StateM (List String)) ∧
    (∀ v, (.value .null : Argument (StateT String (StateM (List String)))) ≠ .context v) ∧
    called (.value (.string " de ")) (.ok "hello") =
      ((.ok ⟨"Hallo, Ada"⟩, "de"), ["inner", "outer"]) ∧
    called (.value (.string " de ")) (.error "broken") =
      ((.error (.body "broken"), "fr"), ["inner", "outer"]) ∧
    (alone (.ok "hello")).1.1 = .ok ⟨"Hallo, Ada"⟩ ∧
    (alone (.ok "hello")).1.2.translator.active = "de" ∧ (alone (.ok "hello")).2 = ["key"] ∧
    alone (.error "broken") = ((.error (.body "broken"), greeting), ["key"]) ∧
    greeting.transShared [.value .null, .value .null, .body (nested greeting "fr" (.ok "unused")),
        .body (nested greeting "fr" (.ok "hello"))] =
      greeting.transShared [.value .null, .value .null,
        .body (nested greeting "fr" (.ok "hello"))] := by
  intro called alone
  have leads : ∀ v, (.value .null : Argument (StateT String (StateM (List String)))) ≠
      .context v := by
    intro v
    exact nofun
  obtain ⟨shared, byValue, -, surplus⟩ :=
    trans_settles_key (m := StateM (List String)) greeting
  refine ⟨inferInstance, leads, ?_, ?_, ?_, ?_, ?_, ?_, ?_⟩
  · simp only [called, shared]
    rfl
  · simp only [called, shared]
    rfl
  · simp only [alone, byValue]
    rfl
  · simp only [alone, byValue]
    rfl
  · simp only [alone, byValue]
    rfl
  · simp only [alone, byValue]
    rfl
  · exact surplus none _ _ _ [_] [] fun _ => leads

end Extension

end Phrasebook.Tag
