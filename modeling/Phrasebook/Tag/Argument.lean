import Phrasebook.Event
import Phrasebook.Value.Inspect

/-!
# Arguments of a tag call

A host calls the tag with a list of arguments: its context first, then the values of the tag's
signature, and last what produces the body. A call takes them apart: the first value is the
locale, the second the parameters, and the body gives the key. Producing a body is an effect of
the host, so a call holds it back until the key is asked for.
-/
namespace Phrasebook.Tag

/-- A positional argument of a call. A body is produced by an effect, which may fail with the
host's own message. -/
inductive Argument (m : Type → Type) where
  | context (v : Value)
  | value (v : Value)
  | body (produce : m (Except String String))

namespace Argument

variable {m : Type → Type}

/-- The inspected form of an argument; a body shows nothing of itself. -/
def inspect : Argument m → String
  | context v => "Context(" ++ v.inspect ++ ")"
  | value v => "Value(" ++ v.inspect ++ ")"
  | body _ => "Body(..)"

/-- The value of an argument in the place of the locale or the parameters; a body has none. -/
def slotValue : Argument m → Value
  | context v => v
  | value v => v
  | body _ => .null

/-- The argument for a host that shares a state with others, which its body leaves alone. -/
def lift {σ : Type} [Monad m] : Argument m → Argument (StateT σ m)
  | context v => .context v
  | value v => .value v
  | body produce => .body (StateT.lift produce)

end Argument

inductive CallError where
  | body (reason : String)
  | unknownMethod (extension method : String)
  deriving DecidableEq, Repr

def CallError.message : CallError → String
  | body reason => s!"failed to render trans body: {reason}"
  | unknownMethod extension method => s!"extension '{extension}' has no method '{method}'"

/-- The arguments of a call by what they are for. -/
structure Call (m : Type → Type) where
  locale? : Option String
  params : Params
  body? : Option (m (Except String String))

namespace Call

variable {m : Type → Type}

/-- The arguments behind a leading context. -/
def withoutContext : List (Argument m) → List (Argument m)
  | .context _ :: rest => rest
  | other => other

/-- The body among arguments, which is the last one if that is a body. -/
def bodyOf (arguments : List (Argument m)) :
    Option (m (Except String String)) × List Event :=
  match arguments.getLast? with
  | some (.body produce) => (some produce, [])
  | some other => (none, [.noBody other.inspect])
  | none => (none, [.noArguments])

/-- The parameters that the value in their place gives. Anything but a map gives none, which is
reported unless it is null or missing. -/
def paramsOf : Option Value → Params × List Event
  | some (.map entries) => (entries, [])
  | none | some .null => ([], [])
  | some other => ([], [.parametersNotMap other.display])

/-- Takes the arguments of a call apart. The last one never counts as a value, even when it is no
body, and values beyond the parameters are ignored. -/
def ofArguments (arguments : List (Argument m)) : Call m × List Event :=
  let arguments := withoutContext arguments
  let (body?, bodyEvents) := bodyOf arguments
  let values := arguments.dropLast.map Argument.slotValue
  let (params, paramsEvents) := paramsOf values[1]?
  (⟨values.head?.bind Value.asLocale?, params, body?⟩, bodyEvents ++ paramsEvents)

/-- Produces the key of a call, and leaves a call without a body: a key is produced once. Without
a body the key is empty. -/
def takeKey [Monad m] (call : Call m) : m (Except CallError String × Call m) := do
  let left := { call with body? := none }
  match call.body? with
  | none => return (.ok "", left)
  | some produce => return ((← produce).mapError .body, left)

end Call

end Phrasebook.Tag
