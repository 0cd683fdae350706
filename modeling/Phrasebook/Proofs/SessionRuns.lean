import Phrasebook.Proofs.TagCall
import Phrasebook.Session

/-!
# What a session leaves behind

Of all that an extension is made of a session changes the active locale alone, and that is the one
which the last request set that sets any. No reply depends on it but that of a translation in the
active locale, so every other request gets the reply of a new extension.
-/
namespace Phrasebook

namespace Translator

def Request.sets? : Request → Option String
  | .activate locale => some locale
  | .translateAs locale _ _ => some locale
  | _ => none

/-- A request changes nothing but the active locale. -/
theorem answer_after (t : Translator) (request : Request) :
    (t.answer request).2.1 = t.activate (request.sets?.getD t.active) := by
  cases request <;> rfl

/-- Only a translation in the active locale depends on it. -/
theorem answer_activate {request : Request}
    (independent : ∀ name params, request ≠ .translateActive name params) (t : Translator)
    (locale : String) :
    ((t.activate locale).answer request).1 = (t.answer request).1 ∧
      ((t.activate locale).answer request).2.2 = (t.answer request).2.2 := by
  cases request with
  | translateActive name params => exact absurd rfl (independent name params)
  | _ => exact ⟨rfl, rfl⟩

end Translator

namespace Tag.Extension

theorem activate_activate (e : Extension) (locale other : String) :
    (e.activate locale).activate other = e.activate other := rfl

/-- A request of a session with its reply and what was reported. -/
structure Step where
  request : Request
  reply : Reply
  events : List Event

/-- The locale that a call makes active: the one that its arguments name, or else the default
locale, unless it fails. -/
def calledLocale? (e : Extension) (arguments : List (Argument Id)) :
    Except CallError SafeText → Option String
  | .ok _ => some (Call.localeFrom e (Call.slot arguments 0))
  | .error _ => none

/-- The locale that a step made active, if it did. -/
def Step.sets? (e : Extension) (step : Step) : Option String :=
  match step.request, step.reply with
  | .translator request, _ => request.sets?
  | .translateText _ locale? _, _ => some (locale?.getD e.config.defaultLocale)
  | .trans arguments, .called result => e.calledLocale? arguments result
  | .call _ arguments, .called result => e.calledLocale? arguments result
  | _, _ => none

/-- The locale that is active after some steps, if `active` was so before. -/
def activeAfter (e : Extension) (active : String) (steps : List Step) : String :=
  (steps.filterMap (Step.sets? e)).getLast?.getD active

/-- A session: the steps of requests one after the other, and the extension afterwards. -/
def run (e : Extension) : List Request → List Step × Extension
  | [] => ([], e)
  | request :: rest =>
    let (reply, next, events) := e.answer request
    let (steps, last) := run next rest
    (⟨request, reply, events⟩ :: steps, last)

def step (e : Extension) (request : Request) : Step :=
  ⟨request, (e.answer request).1, (e.answer request).2.2⟩

theorem activeAfter_cons (e : Extension) (active : String) (step : Step) (rest : List Step) :
    e.activeAfter active (step :: rest) =
      e.activeAfter ((step.sets? e).getD active) rest := by
  cases set : step.sets? e with
  | none => simp [activeAfter, set]
  | some locale =>
    simp only [activeAfter, List.filterMap_cons, set, Option.getD_some, List.getLast?_cons]

/-- In a host without effects a call comes down to the key that its body gives. -/
theorem trans_eq_outcome (e : Extension) (arguments : List (Argument Id)) :
    e.trans (m := Id) arguments =
      e.outcome (Call.ofArguments arguments).1 (Call.ofArguments arguments).2
        (Except.mapError .body (Call.keyOf arguments).run) :=
  trans_eq_map e arguments

theorem call_eq_of_ne (e : Extension) {method : String} (unknown : method ≠ methodName)
    (arguments : List (Argument Id)) :
    e.call (m := Id) method arguments =
      ⟨.error (.unknownMethod extensionName method), e, []⟩ :=
  call_of_ne e unknown arguments

theorem trans_after (e : Extension) (arguments : List (Argument Id)) :
    let o := e.trans (m := Id) arguments
    o.extension = e.activate ((e.calledLocale? arguments o.result).getD e.translator.active) := by
  intro o
  have whole : o = _ := trans_eq_outcome e arguments
  have locale := Call.ofArguments_locale e arguments
  rw [whole]
  cases (Call.keyOf arguments).run with
  | error reason => rfl
  | ok key =>
    change _ = e.activate (Call.localeFrom e (Call.slot arguments 0))
    rw [← locale]
    rfl

/-- A request changes nothing but the active locale. -/
theorem answer_after (e : Extension) (request : Request) :
    (e.answer request).2.1 =
      e.activate (((e.step request).sets? e).getD e.translator.active) := by
  cases request with
  | translator request =>
    change { e with translator := (e.translator.answer request).2.1 } = _
    rw [Translator.answer_after]
    rfl
  | translateText key locale? params => rfl
  | trans arguments => exact trans_after e arguments
  | call method arguments =>
    by_cases named : method = methodName
    · subst named
      exact trans_after e arguments
    · simp only [answer, step, Step.sets?, outcomeReply, call_eq_of_ne e named]
      rfl

/-- The result of a call does not depend on the locale that was active before it. -/
theorem trans_activate (e : Extension) (locale : String) (arguments : List (Argument Id)) :
    ((e.activate locale).trans (m := Id) arguments).result =
        (e.trans (m := Id) arguments).result ∧
      ((e.activate locale).trans (m := Id) arguments).events =
        (e.trans (m := Id) arguments).events := by
  rw [trans_eq_outcome, trans_eq_outcome]
  cases (Call.keyOf arguments).run <;> exact ⟨rfl, rfl⟩

/-- What comes of a request does not depend on the active locale, unless it is a translation in
the active locale. -/
theorem step_activate {request : Request}
    (independent : ∀ name params, request ≠ .translator (.translateActive name params))
    (e : Extension) (locale : String) : (e.activate locale).step request = e.step request := by
  cases request with
  | translator request =>
    have same := Translator.answer_activate
      (fun name params equal => independent name params (equal ▸ rfl)) e.translator locale
    simp only [step, answer, activate, same]
  | translateText key locale? params => rfl
  | trans arguments =>
    have same := trans_activate e locale arguments
    simp only [step, answer, outcomeReply, same]
  | call method arguments =>
    by_cases named : method = methodName
    · subst named
      have same := trans_activate e locale arguments
      simp only [step, answer, outcomeReply, call_methodName, same]
    · simp only [step, answer, outcomeReply, call_eq_of_ne _ named]

theorem activeAfter_activate (e : Extension) (locale : String) :
    (e.activate locale).activeAfter = e.activeAfter := by
  have same : Step.sets? (e.activate locale) = Step.sets? e := by
    funext step
    obtain ⟨request, reply, events⟩ := step
    cases request <;> cases reply <;> rfl
  funext active steps
  rw [activeAfter, same, activeAfter]

/-- Every step of a session is that of the extension with the locale that was active by then, and
so is what is left in the end. -/
theorem run_eq (e : Extension) (requests : List Request) :
    let steps := (e.run requests).1
    steps.map Step.request = requests ∧
    (e.run requests).2 = e.activate (e.activeAfter e.translator.active steps) ∧
    ∀ front s behind, steps = front ++ s :: behind →
      s = (e.activate (e.activeAfter e.translator.active front)).step s.request := by
  induction requests generalizing e with
  | nil =>
    refine ⟨rfl, rfl, fun front s behind split => ?_⟩
    simp [run] at split
  | cons request rest ih =>
    let active := ((e.step request).sets? e).getD e.translator.active
    have after : (e.answer request).2.1 = e.activate active := answer_after e request
    obtain ⟨asked, left, each⟩ := ih (e.activate active)
    have whole : e.run (request :: rest) =
        (e.step request :: ((e.activate active).run rest).1, ((e.activate active).run rest).2) := by
      rw [← after]
      rfl
    rw [activeAfter_activate] at left each
    rw [whole]
    refine ⟨by simp only [List.map_cons, asked]; rfl, ?_, fun front s behind split => ?_⟩
    · rw [activeAfter_cons]
      exact left
    · rcases List.cons_eq_append_iff.mp split with ⟨rfl, same⟩ | ⟨later, rfl, others⟩
      · cases same
        rfl
      · rw [activeAfter_cons]
        exact each later s behind others

/-- Why a request fails: the body of a call failed, or its method is unknown. -/
inductive Request.FailsWith : Request → CallError → Prop
  | body {arguments : List (Argument Id)} {reason : String}
      (failed : (Call.keyOf arguments).run = .error reason) :
      FailsWith (.trans arguments) (.body reason)
  | calledBody {arguments : List (Argument Id)} {reason : String}
      (failed : (Call.keyOf arguments).run = .error reason) :
      FailsWith (.call methodName arguments) (.body reason)
  | unknownMethod {method : String} {arguments : List (Argument Id)}
      (unknown : method ≠ methodName) :
      FailsWith (.call method arguments) (.unknownMethod extensionName method)

/-- Nothing but its body makes a call fail. -/
theorem result_trans_eq_error_iff {e : Extension} {arguments : List (Argument Id)}
    {error : CallError} :
    (e.trans (m := Id) arguments).result = .error error ↔
      ∃ reason, (Call.keyOf arguments).run = .error reason ∧ error = .body reason := by
  rw [trans_eq_outcome]
  cases (Call.keyOf arguments).run with
  | error reason =>
    change Except.error (CallError.body reason) = .error error ↔ _
    simp [eq_comm]
  | ok key =>
    change Except.ok _ = .error error ↔ _
    simp

/-- A request is answered with a failure exactly if its body failed or its method is unknown. -/
theorem reply_step_eq_error_iff {e : Extension} {request : Request} {error : CallError} :
    (e.step request).reply = .called (.error error) ↔ request.FailsWith error := by
  cases request with
  | translator request => exact ⟨nofun, nofun⟩
  | translateText key locale? params => exact ⟨nofun, nofun⟩
  | trans arguments =>
    change Reply.called (e.trans (m := Id) arguments).result = _ ↔ _
    rw [Reply.called.injEq, result_trans_eq_error_iff]
    constructor
    · rintro ⟨reason, failed, rfl⟩
      exact .body failed
    · rintro ⟨failed⟩
      exact ⟨_, failed, rfl⟩
  | call method arguments =>
    by_cases named : method = methodName
    · subst named
      change Reply.called (e.trans (m := Id) arguments).result = _ ↔ _
      rw [Reply.called.injEq, result_trans_eq_error_iff]
      constructor
      · rintro ⟨reason, failed, rfl⟩
        exact .calledBody failed
      · intro fails
        cases fails with
        | calledBody failed => exact ⟨_, failed, rfl⟩
        | unknownMethod unknown => exact absurd rfl unknown
    · simp only [step, answer, outcomeReply, call_eq_of_ne e named]
      constructor
      · intro same
        cases same
        exact .unknownMethod named
      · intro fails
        cases fails with
        | calledBody failed => exact absurd rfl named
        | unknownMethod unknown => rfl

/-- A step that failed sets no locale. -/
theorem sets?_eq_none_of_fails {e : Extension} {s : Step} {error : CallError}
    (fails : s.request.FailsWith error) (failed : s.reply = .called (.error error)) :
    s.sets? e = none := by
  obtain ⟨request, reply, events⟩ := s
  cases failed
  cases fails <;> rfl

/-- A session leaves the extension as it was built, but for the active locale: that is the one
which the last step set that set any, or else the first one. Every step is that of the extension
as it was built, but for a translation in the active locale, which is a translation in the one that
the steps before have left. Steps fail where a body fails or a method is unknown, and set no
locale then. -/
theorem session_changes_only_active (config : Config) (active : String)
    (requests : List Request) :
    let built := (ofConfig config).1
    let steps := ((built.activate active).run requests).1
    let last := ((built.activate active).run requests).2
    steps.map Step.request = requests ∧
    last = built.activate (built.activeAfter active steps) ∧
    (∀ front s behind, steps = front ++ s :: behind →
      ((∀ name params, s.request ≠ .translator (.translateActive name params)) →
        s = built.step s.request) ∧
      ∀ name params, s.request = .translator (.translateActive name params) →
        let named := built.step
          (.translator (.translate (built.activeAfter active front) name params))
        s.reply = named.reply ∧ s.events = named.events) ∧
    ∀ s ∈ steps, ∀ error,
      (s.reply = .called (.error error) ↔ s.request.FailsWith error) ∧
      (s.reply = .called (.error error) → s.sets? built = none) := by
  intro built steps last
  obtain ⟨asked, left, each⟩ := run_eq (built.activate active) requests
  rw [activeAfter_activate] at left each
  refine ⟨asked, left, fun front s behind split => ⟨fun independent => ?_, ?_⟩, ?_⟩
  · rw [each front s behind split, activate_activate]
    exact step_activate independent built _
  · intro name params translated
    have same := each front s behind split
    rw [translated] at same
    rw [same]
    exact ⟨rfl, rfl⟩
  · intro s member error
    obtain ⟨front, behind, split⟩ := List.append_of_mem member
    have failing : s.reply = .called (.error error) ↔ s.request.FailsWith error := by
      rw [each front s behind split]
      exact reply_step_eq_error_iff
    exact ⟨failing, fun failed => sets?_eq_none_of_fails (failing.mp failed) failed⟩

end Tag.Extension

end Phrasebook
