import Phrasebook.Config.Basic
import Phrasebook.SafeText
import Phrasebook.Tag.Argument

/-!
# The tag at render time

An extension holds a configuration and its translator. A call translates the key that its body
gives in the locale that it names, or in the default locale, and leaves that locale active. It
fails only where its body does, and then changes nothing itself.

A host may hold on to its extension, and then a body can use the extension that calls it: tags
nest. All that such uses share is the active locale, so it is a state of the host's effects here.
-/
namespace Phrasebook.Tag

/-- The name by which compiled tags refer to the extension. -/
def extensionName : String := "TransExtension"

def methodName : String := "trans"

structure Extension where
  config : Config
  translator : Translator
  deriving Repr

/-- What a call gives: its result, the extension afterwards, and what is reported. -/
structure Outcome where
  result : Except CallError SafeText
  extension : Extension
  events : List Event

namespace Extension

def ofConfig (config : Config) : Extension × List Event :=
  let (translator, events) := config.translator
  (⟨config, translator⟩, events)

/-- Translates a key in a locale, which becomes active; in the default locale when none is
given. -/
def translateText (e : Extension) (key : String) (locale? : Option String) (params : Params) :
    Rendered × Extension :=
  let locale := locale?.getD e.config.defaultLocale
  let (rendered, translator) := e.translator.translateAs locale key params
  (rendered, { e with translator })

def activate (e : Extension) (locale : String) : Extension :=
  { e with translator := e.translator.activate locale }

variable {m : Type → Type} [Monad m]

/-- Evaluates a call of the tag. The state is the active locale, which the body finds as it is and
may change. -/
def transShared (e : Extension) (arguments : List (Argument (StateT String m))) :
    StateT String m (Except CallError SafeText × List Event) := do
  let (call, events) := Call.ofArguments arguments
  match (← call.takeKey).1 with
  | .error error => return (.error error, events)
  | .ok key =>
    let (rendered, after) := e.translateText key call.locale? call.params
    set after.translator.active
    return (.ok ⟨rendered.text⟩, events ++ rendered.missing.map .missingParameter)

/-- Calls a method of the extension by name. -/
def callShared (e : Extension) (method : String) (arguments : List (Argument (StateT String m))) :
    StateT String m (Except CallError SafeText × List Event) :=
  if method = methodName then e.transShared arguments
  else return (.error (.unknownMethod extensionName method), [])

/-- What an evaluation comes to from the extension's own active locale on. -/
def outcomeOf (e : Extension)
    (evaluation : StateT String m (Except CallError SafeText × List Event)) : m Outcome := do
  let ((result, events), active) ← evaluation.run e.translator.active
  return ⟨result, e.activate active, events⟩

/-- Evaluates a call of the tag whose body leaves the extension alone. -/
def trans (e : Extension) (arguments : List (Argument m)) : m Outcome :=
  e.outcomeOf (e.transShared (arguments.map .lift))

/-- Calls a method of the extension by name with a body that leaves the extension alone. -/
def call (e : Extension) (method : String) (arguments : List (Argument m)) : m Outcome :=
  e.outcomeOf (e.callShared method (arguments.map .lift))

end Extension

end Phrasebook.Tag
