import Phrasebook.Proofs.TagCall
import Phrasebook.Tag.Block

/-!
# What a block asks of its host

Compiling a block makes five requests in a fixed order, each in the state that the one before has
left, and then builds one node. A request that the host refuses is the last one, and its error is
the result. Requests are observed through a host that notes what it is asked, so the statements
hold of every host, whatever its state is and wherever it fails. What is captured at compile time
meets its places at render time: the first argument of the block is the locale of the call, the
second the parameters, and the body gives the key.
-/
namespace Phrasebook.Tag

variable {σ ε Expression Body Node α β : Type}

/-- What a program of a host comes to from a state on. -/
def runFrom (program : ExceptT ε (StateM σ) α) (state : σ) : Except ε α × σ :=
  (program.run.run state).run

/-- The second program runs in the state that the first one has left, unless the first one fails. -/
theorem runFrom_bind (program : ExceptT ε (StateM σ) α) (next : α → ExceptT ε (StateM σ) β)
    (state : σ) :
    runFrom (program >>= next) state =
      match runFrom program state with
      | (.ok value, after) => runFrom (next value) after
      | (.error error, after) => (.error error, after) := by
  simp only [runFrom, ExceptT.run_bind, StateT.run_bind, Id.run_bind]
  rcases (program.run.run state).run with ⟨_ | value, after⟩ <;> rfl

theorem runFrom_map (f : α → β) (program : ExceptT ε (StateM σ) α) (state : σ) :
    runFrom (f <$> program) state =
      ((runFrom program state).1.map f, (runFrom program state).2) := by
  rw [map_eq_pure_bind, runFrom_bind]
  rcases runFrom program state with ⟨_ | value, after⟩ <;> rfl

namespace Host

/-- A request to a host while a block is compiled. -/
inductive Request where
  | nextToken
  | signature (bare : Bool)
  | advanceBehindTag (name? : Option String)
  | contentUntil (names : List String)
  deriving DecidableEq, Repr

/-- What a host gives when it grants a request. -/
inductive Reply (Expression Body : Type) where
  | token (token : Token)
  | arguments (expressions : List Expression)
  | advanced
  | content (body : Body)
  deriving DecidableEq, Repr

/-- What a host is told to do: to grant a request, or to build a node. -/
inductive Deed (Expression Body : Type) where
  | asked (request : Request)
  | built (extension method : String) (arguments : List Expression) (bodies : List Body)
  deriving DecidableEq, Repr

def serve (host : Host σ ε Expression Body Node) :
    Request → ExceptT ε (StateM σ) (Reply Expression Body)
  | .nextToken => .token <$> host.nextToken
  | .signature bare => .arguments <$> host.signature bare
  | .advanceBehindTag name? => (fun _ => .advanced) <$> host.advanceBehindTag name?
  | .contentUntil names => .content <$> host.contentUntil names

def noting (deed : Deed Expression Body) (program : StateM σ α) :
    StateM (σ × List (Deed Expression Body)) α :=
  fun (state, deeds) =>
    let (result, after) := (program.run state).run
    (result, (after, deeds ++ [deed]))

def recorded (host : Host σ ε Expression Body Node) :
    Host (σ × List (Deed Expression Body)) ε Expression Body Node where
  nextToken := noting (.asked .nextToken) host.nextToken.run
  signature bare := noting (.asked (.signature bare)) (host.signature bare).run
  advanceBehindTag name? :=
    noting (.asked (.advanceBehindTag name?)) (host.advanceBehindTag name?).run
  contentUntil names := noting (.asked (.contentUntil names)) (host.contentUntil names).run
  callNode extension method arguments bodies :=
    noting (.built extension method arguments bodies)
      (host.callNode extension method arguments bodies)

/-- Requests that were granted with these replies, each in the state that the one before has
left. -/
inductive Granted (host : Host σ ε Expression Body Node) (start : σ) :
    List (Request × Reply Expression Body) → σ → Prop
  | none : Granted host start [] start
  | next {served : List (Request × Reply Expression Body)} {request : Request}
      {reply : Reply Expression Body} {middle after : σ}
      (before : Granted host start served middle)
      (grants : runFrom (host.serve request) middle = (.ok reply, after)) :
      Granted host start (served ++ [(request, reply)]) after

/-- The requests of a block, by the text of its first token. -/
def blockRequests (name : String) : List Request :=
  [.nextToken, .signature true, .advanceBehindTag (some name), .contentUntil ["endtrans"],
    .advanceBehindTag none]

/-- How a block is compiled from a state on: its result, the state afterwards, and what the host
was told to do. -/
inductive Compiled (host : Host σ ε Expression Body Node) (extension : String) (start : σ) :
    Except ε Node × σ × List (Deed Expression Body) → Prop
  /-- The requests are the first ones of a block, and all but the last one were granted. -/
  | refused {served : List (Request × Reply Expression Body)} {request : Request} {error : ε}
      {middle final : σ} {name : String}
      (granted : host.Granted start served middle)
      (refuses : runFrom (host.serve request) middle = (.error error, final))
      (inOrder : served.map Prod.fst ++ [request] <+: blockRequests name)
      (named : ∀ token, (.nextToken, .token token) ∈ served → token.text = name) :
      Compiled host extension start
        (.error error, final, (served.map Prod.fst ++ [request]).map .asked)
  /-- All requests were granted, and one node was built of what they gave. -/
  | built {token : Token} {arguments : List Expression} {body : Body} {node : Node}
      {middle final : σ}
      (granted : host.Granted start
        [(.nextToken, .token token), (.signature true, .arguments arguments),
          (.advanceBehindTag (some token.text), .advanced),
          (.contentUntil ["endtrans"], .content body), (.advanceBehindTag none, .advanced)] middle)
      (builds : (host.callNode extension "trans" arguments [body]).run middle = (node, final)) :
      Compiled host extension start
        (.ok node, final,
          (blockRequests token.text).map .asked ++ [.built extension "trans" arguments [body]])

theorem runFrom_noting (deed : Deed Expression Body) (program : ExceptT ε (StateM σ) α)
    (state : σ) (deeds : List (Deed Expression Body)) :
    runFrom (noting deed program.run) (state, deeds) =
      ((runFrom program state).1, (runFrom program state).2, deeds ++ [deed]) := rfl

/-- One request of a block: where it is refused the block is done, and where it is granted the
rest of the block goes on. -/
theorem Compiled.of_request {host : Host σ ε Expression Body Node} {extension : String}
    {start middle : σ} (name : String) {served : List (Request × Reply Expression Body)}
    {request : Request} {program : ExceptT ε (StateM σ) α} {reply : α → Reply Expression Body}
    {next : α → ExceptT ε (StateM (σ × List (Deed Expression Body))) Node}
    (granted : host.Granted start served middle)
    (serves : host.serve request = reply <$> program)
    (inOrder : served.map Prod.fst ++ [request] <+: blockRequests name)
    (named : ∀ token, (.nextToken, .token token) ∈ served → token.text = name)
    (goesOn : ∀ value after, host.Granted start (served ++ [(request, reply value)]) after →
      Compiled host extension start
        (runFrom (next value) (after, (served.map Prod.fst ++ [request]).map .asked))) :
    Compiled host extension start
      (runFrom (noting (.asked request) program.run >>= next)
        (middle, (served.map Prod.fst).map .asked)) := by
  have noted : (served.map Prod.fst).map (.asked : Request → Deed Expression Body) ++
      [.asked request] = (served.map Prod.fst ++ [request]).map .asked := by
    rw [List.map_append]
    rfl
  have replied := runFrom_map reply program middle
  rw [← serves] at replied
  rw [runFrom_bind, runFrom_noting, noted]
  cases came : runFrom program middle with
  | mk result after =>
    rw [came] at replied
    cases result with
    | error error => exact .refused granted replied inOrder named
    | ok value => exact goesOn value after (.next granted replied)

/-- The first reply is the only token among the replies of a block. -/
theorem named_of_cons {token : Token} {served : List (Request × Reply Expression Body)}
    (others : ∀ token', (.nextToken, .token token') ∉ served) :
    ∀ token', (.nextToken, .token token') ∈ (.nextToken, .token token) :: served →
      token'.text = token.text := by
  intro token' member
  rcases List.mem_cons.mp member with same | member
  · cases same
    rfl
  · exact absurd member (others token')

/-- Compiling a block makes its requests in order, up to the first one that is refused, and builds
one node when none is. -/
theorem compiled_compileAs (host : Host σ ε Expression Body Node) (extension : String)
    (start : σ) :
    Compiled host extension start (runFrom (compileAs host.recorded extension) (start, [])) := by
  refine .of_request "" .none rfl ⟨_, rfl⟩ (by simp) ?_
  intro token first granted
  refine .of_request token.text granted rfl ⟨_, rfl⟩ (named_of_cons (by simp)) ?_
  intro arguments second granted
  refine .of_request token.text granted rfl ⟨_, rfl⟩ (named_of_cons (by simp)) ?_
  intro _ third granted
  refine .of_request token.text granted rfl ⟨_, rfl⟩ (named_of_cons (by simp)) ?_
  intro body fourth granted
  refine .of_request token.text granted rfl ⟨_, rfl⟩ (named_of_cons (by simp)) ?_
  intro _ last granted
  exact .built granted rfl

/-- The notes of a host change nothing of what a program comes to. -/
def Unnoted (program : ExceptT ε (StateM σ) α)
    (noted : ExceptT ε (StateM (σ × List (Deed Expression Body))) α) : Prop :=
  ∀ state deeds, runFrom program state =
    ((runFrom noted (state, deeds)).1, (runFrom noted (state, deeds)).2.1)

theorem unnoted_noting (deed : Deed Expression Body) (program : ExceptT ε (StateM σ) α) :
    Unnoted program (noting deed program.run) := fun _ _ => rfl

theorem Unnoted.bind {program : ExceptT ε (StateM σ) α} {next : α → ExceptT ε (StateM σ) β}
    {noted : ExceptT ε (StateM (σ × List (Deed Expression Body))) α}
    {nextNoted : α → ExceptT ε (StateM (σ × List (Deed Expression Body))) β}
    (first : Unnoted program noted) (rest : ∀ value, Unnoted (next value) (nextNoted value)) :
    Unnoted (program >>= next) (noted >>= nextNoted) := by
  intro state deeds
  rw [runFrom_bind, runFrom_bind, first state deeds]
  rcases runFrom noted (state, deeds) with ⟨_ | value, after, later⟩
  · rfl
  · exact rest value after later

/-- A block is compiled alike whether or not the host takes notes. -/
theorem unnoted_compileAs (host : Host σ ε Expression Body Node) (extension : String) :
    Unnoted (compileAs host extension) (compileAs host.recorded extension) := by
  refine .bind (unnoted_noting _ _) fun token => ?_
  refine .bind (unnoted_noting _ _) fun arguments => ?_
  refine .bind (unnoted_noting _ _) fun _ => ?_
  refine .bind (unnoted_noting _ _) fun body => ?_
  refine .bind (unnoted_noting _ _) fun _ => ?_
  intro state deeds
  rfl

/-- Only a call of the tag with one body is ever built. -/
theorem Compiled.of_built_mem {host : Host σ ε Expression Body Node} {extension : String}
    {start : σ} {outcome : Except ε Node × σ × List (Deed Expression Body)}
    (compiled : Compiled host extension start outcome) {name method : String}
    {arguments : List Expression} {bodies : List Body}
    (member : .built name method arguments bodies ∈ outcome.2.2) :
    method = "trans" ∧ ∃ body, bodies = [body] := by
  cases compiled with
  | refused granted refuses inOrder named => simp at member
  | @built token captured body node middle final granted builds =>
    rcases List.mem_append.mp member with asked | last
    · simp at asked
    · cases List.mem_singleton.mp last
      exact ⟨rfl, body, rfl⟩

end Host

variable {m : Type → Type}

/-- The arguments of a call: the context, the values of the expressions that a node has captured,
and one producer for each of its bodies. -/
def callArguments (context : Value) (valueOf : Expression → Value)
    (produce : Body → m (Except String String)) (arguments : List Expression)
    (bodies : List Body) : List (Argument m) :=
  .context context :: (arguments.map fun x => .value (valueOf x)) ++
    bodies.map fun body => .body (produce body)

theorem keyOf_callArguments [Monad m] (context : Value) (valueOf : Expression → Value)
    (produce : Body → m (Except String String)) (arguments : List Expression) (body : Body) :
    Call.keyOf (callArguments context valueOf produce arguments [body]) = produce body := by
  unfold Call.keyOf callArguments
  simp [Call.withoutContext]

theorem paramsOf_eq_toParams (v? : Option Value) :
    (Call.paramsOf v?).1 = (v?.map Value.toParams).getD [] := by
  rcases v? with _ | v
  · rfl
  · cases v <;> rfl

theorem between_callArguments (context : Value) (valueOf : Expression → Value)
    (produce : Body → m (Except String String)) (arguments : List Expression) (body : Body) :
    (Call.between (callArguments context valueOf produce arguments [body])).map
      Argument.slotValue = arguments.map valueOf := by
  simp [Call.between, callArguments, Call.withoutContext, Argument.slotValue]

/-- The first expression of a node is taken for the locale and the second for the parameters. -/
theorem ofArguments_callArguments (context : Value) (valueOf : Expression → Value)
    (produce : Body → m (Except String String)) (arguments : List Expression) (body : Body) :
    let call := (Call.ofArguments (callArguments context valueOf produce arguments [body])).1
    call.locale? = (arguments.head?.bind fun x => (valueOf x).asLocale?) ∧
      call.params = (arguments[1]?.map fun x => (valueOf x).toParams).getD [] := by
  intro call
  have values := between_callArguments context valueOf produce arguments body
  constructor
  · change Option.bind (List.head? ((Call.between _).map _)) _ = _
    rw [values, List.head?_map, Option.bind_map]
    rfl
  · change (Call.paramsOf ((Call.between _).map _)[1]?).1 = _
    rw [values, paramsOf_eq_toParams, List.getElem?_map, Option.map_map]
    rfl

namespace Extension

/-- A call with the captured arguments of a block translates the text of its body. -/
theorem call_callArguments [Monad m] [LawfulMonad m] (e : Extension) (context : Value)
    (valueOf : Expression → Value) (produce : Body → m String) (arguments : List Expression)
    (body : Body) :
    Outcome.observed <$> e.call "trans"
        (callArguments context valueOf (fun body => .ok <$> produce body) arguments [body]) =
      (fun key =>
        let (rendered, after) := e.translateText key
          (arguments.head?.bind fun x => (valueOf x).asLocale?)
          ((arguments[1]?.map fun x => (valueOf x).toParams).getD [])
        (.ok ⟨rendered.text⟩, after)) <$> produce body := by
  have method : ∀ given : List (Argument m), e.call "trans" given = e.trans given :=
    call_methodName e
  obtain ⟨locale, params⟩ := ofArguments_callArguments context valueOf
    (fun body => Except.ok <$> produce body) arguments body
  rw [method, trans_eq_map, keyOf_callArguments]
  simp only [← comp_map]
  congr 1
  funext key
  change Outcome.observed (outcome e _ _ (.ok key)) = _
  simp only [outcome, Outcome.observed, locale, params]

/-- From any state of any host on, compiling a block makes the requests of a block one after the
other, stops at the first one that is refused with its error, and else builds one node of what they
gave. The notes change nothing. A node that was built holds what a call needs: with the values of
its arguments and a body that gives a key, the call is the translation of the key in the locale
that the first value names, with the parameters that the second one gives. -/
theorem block_settles_call (host : Host σ ε Expression Body Node) (extension : String)
    (start : σ) :
    let outcome := runFrom (compileAs host.recorded extension) (start, [])
    host.Compiled extension start outcome ∧
    runFrom (compileAs host extension) start = (outcome.1, outcome.2.1) ∧
    ∀ name method arguments bodies,
      Host.Deed.built name method arguments bodies ∈ outcome.2.2 →
      ∃ body, bodies = [body] ∧
        ∀ (m : Type → Type) [Monad m] [LawfulMonad m] (e : Extension) (context : Value)
          (valueOf : Expression → Value) (produce : Body → m String),
          Outcome.observed <$> e.call method
              (callArguments context valueOf (fun body => .ok <$> produce body) arguments bodies) =
            (fun key =>
              let (rendered, after) := e.translateText key
                (arguments.head?.bind fun x => (valueOf x).asLocale?)
                ((arguments[1]?.map fun x => (valueOf x).toParams).getD [])
              (.ok ⟨rendered.text⟩, after)) <$> produce body := by
  intro outcome
  have compiled := Host.compiled_compileAs host extension start
  refine ⟨compiled, Host.unnoted_compileAs host extension start [], ?_⟩
  intro name method arguments bodies member
  obtain ⟨rfl, body, rfl⟩ := compiled.of_built_mem member
  refine ⟨body, rfl, ?_⟩
  intro m _ _ e context valueOf produce
  exact call_callArguments e context valueOf produce arguments body

/-- A host that reads words. A bar ends a tag, and a name is not compared. -/
def wordHost : Host (List String) String String String (CallNode String String) where
  nextToken := fun words =>
    match words with
    | [] => (.error "no token", [])
    | word :: rest => (.ok ⟨word, 1, 1⟩, rest)
  signature _ := fun words => (.ok (words.takeWhile (· ≠ "|")), words.dropWhile (· ≠ "|"))
  advanceBehindTag _ := fun words =>
    match words.dropWhile (· ≠ "|") with
    | [] => (.error "open tag", [])
    | _ :: rest => (.ok (), rest)
  contentUntil names := fun words =>
    match words.dropWhile (· ∉ names) with
    | [] => (.error "open block", [])
    | rest => (.ok (String.intercalate " " (words.takeWhile (· ∉ names))), rest)
  callNode extension method arguments bodies := fun words =>
    (⟨extension, method, arguments, bodies⟩, words)

def valueOfName (name : String) : Value :=
  if name = "user" then .map [("name", .string "Ada")] else .string name

theorem block_settles_call_of_words :
    let outcome := runFrom (compileAs wordHost.recorded "Greeter")
      (["trans", "de", "user", "|", "hello", "endtrans", "|", "Bye"], [])
    outcome.1 = .ok ⟨"Greeter", "trans", ["de", "user"], ["hello"]⟩ ∧
    outcome.2.1 = ["Bye"] ∧
    Host.Deed.built "Greeter" "trans" ["de", "user"] ["hello"] ∈ outcome.2.2 ∧
    LawfulMonad Id ∧
    Outcome.observed (greeting.call "trans" (callArguments .null valueOfName
        (fun body => (pure (.ok body) : Id _)) ["de", "user"] ["hello"])).run =
      (.ok ⟨"Hallo, Ada"⟩, { greeting with translator := greeting.translator.activate "de" }) := by
  intro outcome
  have built : Host.Deed.built "Greeter" "trans" ["de", "user"] ["hello"] ∈ outcome.2.2 := by
    decide
  refine ⟨rfl, rfl, built, inferInstance, ?_⟩
  obtain ⟨body, same, calls⟩ := (block_settles_call wordHost "Greeter" _).2.2 _ _ _ _ built
  cases same
  exact calls Id greeting .null valueOfName pure

end Extension

end Phrasebook.Tag
