import Phrasebook.Tag.Extension

/-!
# The tag at compile time

A host template engine offers five operations, four of which may fail with an error of its own and
all of which may change its state. Compiling a block asks for them in a fixed order and builds one
call node.
-/
namespace Phrasebook.Tag

def openingTag : String := "trans"

def closingTag : String := "endtrans"

def tags : List String := [openingTag]

/-- A token of a host: its text, line and column. -/
structure Token where
  text : String
  line : Nat
  column : Nat
  deriving DecidableEq, Repr

/-- What the tag needs of a host with states `σ` and errors `ε`. Argument expressions, body nodes
and call nodes are the host's own, and the tag passes them on. -/
structure Host (σ ε Expression Body Node : Type) where
  /-- Takes the next token. -/
  nextToken : ExceptT ε (StateM σ) Token
  /-- Takes the arguments of the tag, which may stand without parentheses when `bare` is set. -/
  signature (bare : Bool) : ExceptT ε (StateM σ) (List Expression)
  /-- Moves behind the end of the tag, whose name is checked when one is given. -/
  advanceBehindTag (name? : Option String) : ExceptT ε (StateM σ) Unit
  /-- Takes the content up to the first tag of one of the names. -/
  contentUntil (names : List String) : ExceptT ε (StateM σ) Body
  /-- Builds a node that calls a method of an extension with the arguments and the bodies. -/
  callNode (extension method : String) (arguments : List Expression) (bodies : List Body) :
    StateM σ Node

/-- A call node for hosts that have none of their own. -/
structure CallNode (Expression Body : Type) where
  extension : String
  method : String
  arguments : List Expression
  bodies : List Body
  deriving Repr

/-- Compiles a block of the tag into a call of the named extension, from the token of the tag's
name on. The first error of the host is passed on as it is. -/
def compileAs {σ ε Expression Body Node : Type} (host : Host σ ε Expression Body Node)
    (extension : String) : ExceptT ε (StateM σ) Node := do
  let token ← host.nextToken
  let arguments ← host.signature true
  host.advanceBehindTag (some token.text)
  let body ← host.contentUntil [closingTag]
  host.advanceBehindTag none
  host.callNode extension methodName arguments [body]

/-- Compiles a block of the tag into a call of this extension. -/
def compile {σ ε Expression Body Node : Type} (host : Host σ ε Expression Body Node) :
    ExceptT ε (StateM σ) Node :=
  compileAs host extensionName

end Phrasebook.Tag
