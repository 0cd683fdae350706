import Phrasebook.Catalog.Review
import Phrasebook.Tag.Extension

/-!
# Sessions

A session is a sequence of requests to a translator or to an extension. Each request gives a reply
and what is reported, and leaves the translator or the extension for the next one; only the active
locale ever differs afterwards.
-/
namespace Phrasebook

/-- What a translator can be asked. -/
inductive Translator.Request where
  | translate (locale name : String) (params : Params)
  | translateActive (name : String) (params : Params)
  | translateAs (locale name : String) (params : Params)
  | activate (locale : String)
  | finds (locale name : String)
  | lookup (locale name : String)
  | fallbackChain (locale : String)
  | fallbackLocales
  | locales
  | keys (locale : String)
  | missingKeys (source target : String)
  | review (source target : String)
  | suggestKeys (locale name : String)

inductive Translator.Reply where
  | done
  | text (text : String)
  | flag (b : Bool)
  | found (hit? : Option (String × Entry))
  | names (names : List String)
  | flaws (flaws : List Flaw)

namespace Translator

/-- The reply of a rendered translation, and what is reported on it. -/
def renderedReply (rendered : Rendered) : Reply × List Event :=
  (.text rendered.text, rendered.missing.map .missingParameter)

def answer (t : Translator) : Request → Reply × Translator × List Event
  | .translate locale name params =>
    let (reply, events) := renderedReply (t.translate locale name params)
    (reply, t, events)
  | .translateActive name params =>
    let (reply, events) := renderedReply (t.translateActive name params)
    (reply, t, events)
  | .translateAs locale name params =>
    let (rendered, after) := t.translateAs locale name params
    let (reply, events) := renderedReply rendered
    (reply, after, events)
  | .activate locale => (.done, t.activate locale, [])
  | .finds locale name => (.flag (t.finds locale name), t, [])
  | .lookup locale name => (.found (t.lookup locale name), t, [])
  | .fallbackChain locale => (.names (t.fallbackChain locale), t, [])
  | .fallbackLocales => (.names t.fallbackLocales, t, [])
  | .locales => (.names t.catalog.locales, t, [])
  | .keys locale => (.names (t.keys locale), t, [])
  | .missingKeys source target => (.names (t.missingKeys source target), t, [])
  | .review source target => (.flaws (t.review source target), t, [])
  | .suggestKeys locale name => (.names (t.suggestKeys locale name), t, [])

end Translator

namespace Tag.Extension

/-- What an extension can be asked, besides what its translator can. Bodies are given by their
texts or their failures. -/
inductive Request where
  | translator (request : Translator.Request)
  | translateText (key : String) (locale? : Option String) (params : Params)
  | trans (arguments : List (Argument Id))
  | call (method : String) (arguments : List (Argument Id))

inductive Reply where
  | translator (reply : Translator.Reply)
  | called (result : Except CallError SafeText)

/-- The reply of a call. -/
def outcomeReply (outcome : Outcome) : Reply × Extension × List Event :=
  (.called outcome.result, outcome.extension, outcome.events)

def answer (e : Extension) : Request → Reply × Extension × List Event
  | .translator request =>
    let (reply, translator, events) := e.translator.answer request
    (.translator reply, { e with translator }, events)
  | .translateText key locale? params =>
    let (rendered, after) := e.translateText key locale? params
    let (reply, events) := Translator.renderedReply rendered
    (.translator reply, after, events)
  | .trans arguments => outcomeReply (e.trans (m := Id) arguments)
  | .call method arguments => outcomeReply (e.call (m := Id) method arguments)

end Tag.Extension

end Phrasebook
