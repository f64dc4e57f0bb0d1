import ChatBackend.Domain
import ChatBackend.Effects.Layers

/-!
# Composed middlewares

`compose` calls its middlewares through one function `next`, which counts an
index up and calls what stands there, or the handler behind the last one.  The
nested application hands every middleware the application of the next one.

Both are tasks that start one another.  The context of a request is an object
that they share, beside the world that their dependencies act on.
-/

namespace ChatBackend.Http

open Effects

/-! ## Requests and responses -/

/-- Header names are compared without regard to their case. -/
def lowerCase (name : String) : String :=
  String.ofList (name.toList.map Char.toLower)

/-- The names are kept in lower case. -/
abbrev Headers := List (String × String)

namespace Headers

def get (headers : Headers) (name : String) : Option String :=
  (headers.find? fun entry => entry.1 = lowerCase name).map Prod.snd

def set (headers : Headers) (name value : String) : Headers :=
  (lowerCase name, value) ::
    headers.filter fun entry => entry.1 ≠ lowerCase name

@[simp]
theorem get_set_self (headers : Headers) (name value : String) :
    (headers.set name value).get name = some value := by
  unfold set get
  rw [List.find?_cons_of_pos (by simp)]
  rfl

theorem get_set_of_ne {headers : Headers} {name other value : String}
    (differ : lowerCase other ≠ lowerCase name) :
    (headers.set name value).get other = headers.get other := by
  unfold set get
  rw [List.find?_cons_of_neg (by simpa using fun same => differ same.symm),
    List.find?_filter]
  congr 2
  funext entry
  by_cases there : entry.1 = lowerCase other
  · simp [there, differ]
  · simp [there]

end Headers

structure Request where
  method : String
  headers : Headers
deriving DecidableEq, Repr

inductive Body where
  | none
  /-- `{ error: message }` -/
  | error (message : String)
  | text (content : String)
deriving DecidableEq, Repr

structure Response where
  status : Nat
  headers : Headers
  body : Body
deriving DecidableEq, Repr

/-- `res.headers.set(name, value)` -/
def Response.set (response : Response) (name value : String) : Response :=
  { response with headers := response.headers.set name value }

/-- What can be thrown: an error of the domain, or any other one. -/
inductive Thrown where
  | failure (failure : Failure)
  | error (message : String)
deriving DecidableEq, Repr

/-! ## Middlewares -/

structure ReqCtx where
  requestId : String
  userId : Option String
deriving DecidableEq, Repr

/-- The context of a request beside the world of the dependencies. -/
structure Exchange (World : Type) where
  ctx : ReqCtx
  world : World

abbrev Middleware (World : Type) :=
  Request → TaskProgram (Exchange World) Thrown Response

abbrev RouteHandler (World : Type) :=
  Request → ActProgram (Exchange World) Thrown Response

abbrev Calls (World Memory : Type) :=
  Tasks (Exchange World) Thrown Response Memory

section Compositions

variable {World : Type} (middlewares : List (Middleware World))
  (handler : RouteHandler World) (req : Request)

def RouteHandler.toTask :
    TaskProgram (Exchange World) Thrown Response :=
  (handler req).toLayer.toTask

/-- `next`, where the memory is the index `i` -/
def compose.next : Launcher (Exchange World) Thrown Response Nat :=
  fun i _ =>
    (match middlewares[i]? with
      | some mw => mw req
      | none => RouteHandler.toTask handler req,
      i + 1)

/-- What `crypto.randomUUID()` draws comes from outside. -/
def compose (randomUUID : String) (world : World) : Calls World Nat :=
  let called := compose.next middlewares handler req 0 0
  Tasks.first called.1 called.2
    { ctx := { requestId := randomUUID, userId := none }, world }

/-- A composed call, after tasks of it have moved in the given order. -/
def compose.run (randomUUID : String) (world : World)
    (schedule : List Nat) : Calls World Nat :=
  Tasks.run (compose.next middlewares handler req)
    (compose middlewares handler req randomUUID world) schedule

/-- A nest of middlewares around a handler, as one function. -/
inductive Application (World : Type) where
  | handler (handler : RouteHandler World)
  | around (mw : Middleware World) (inner : Application World)

namespace Application

/-- `m1(m2(...(mn(h))))` -/
def nested : Application World :=
  middlewares.foldr around (.handler handler)

def body : Application World → TaskProgram (Exchange World) Thrown Response
  | .handler handler => RouteHandler.toTask handler req
  | .around mw _ => mw req

/-- What a middleware is applied to; a handler is applied to nothing. -/
def inner : Application World → Application World
  | .handler handler => .handler handler
  | .around _ inner => inner

/-- Every task remembers what it was called as, and with it its `next`. -/
def next : Launcher (Exchange World) Thrown Response
    (List (Application World)) :=
  fun called caller =>
    let application := ((called[caller]?).map inner).getD
      (.handler handler)
    (application.body req, called ++ [application])

def run (randomUUID : String) (world : World) (schedule : List Nat) :
    Calls World (List (Application World)) :=
  Tasks.run (next handler req)
    (Tasks.first ((nested middlewares handler).body req)
      [nested middlewares handler]
      { ctx := { requestId := randomUUID, userId := none }, world })
    schedule

end Application

/-! ## The nested application -/

/-- What the call at a position runs: a middleware, or the handler. -/
def stage (position : Nat) : TaskProgram (Exchange World) Thrown Response :=
  match middlewares[position]? with
  | some mw => mw req
  | none => RouteHandler.toTask handler req

theorem follows_compose :
    Tasks.Follows middlewares.length (stage middlewares handler req)
      (fun position => position + 1)
      (compose.next middlewares handler req) :=
  fun _ _ => rfl

theorem body_nested_drop (position : Nat) :
    (Application.nested (middlewares.drop position) handler).body req =
      stage middlewares handler req position := by
  unfold stage
  cases here : middlewares[position]? with
  | none =>
      rw [List.drop_eq_nil_of_le (List.getElem?_eq_none_iff.mp here)]
      rfl
  | some mw =>
      obtain ⟨inside, there⟩ := List.getElem?_eq_some_iff.mp here
      rw [List.drop_eq_getElem_cons inside, there]
      rfl

theorem inner_nested_drop {position : Nat}
    (inside : position < middlewares.length) :
    (Application.nested (middlewares.drop position) handler).inner =
      Application.nested (middlewares.drop (position + 1)) handler := by
  rw [List.drop_eq_getElem_cons inside]
  rfl

/-- The applications that the calls up to a position were made as. -/
def calledUpTo (position : Nat) : List (Application World) :=
  (List.range (position + 1)).map fun earlier =>
    Application.nested (middlewares.drop earlier) handler

theorem follows_nested :
    Tasks.Follows middlewares.length (stage middlewares handler req)
      (calledUpTo middlewares handler)
      (Application.next handler req) := by
  intro position inside
  have called : (calledUpTo middlewares handler position)[position]? =
      some (Application.nested (middlewares.drop position) handler) := by
    unfold calledUpTo
    rw [List.getElem?_map, List.getElem?_range (Nat.lt_succ_self position)]
    rfl
  unfold Application.next
  rw [called, Option.map_some, Option.getD_some,
    inner_nested_drop middlewares handler inside]
  refine Prod.ext (body_nested_drop middlewares handler req _) ?_
  dsimp only
  unfold calledUpTo
  rw [@List.range_succ (position + 1), List.map_append]
  rfl

variable {middlewares}

theorem line_stage
    (once : ∀ mw ∈ middlewares, ∀ req, (mw req).StartsAtMostOnce) :
    Tasks.Line middlewares.length (stage middlewares handler req) where
  once position := by
    unfold stage
    cases here : middlewares[position]? with
    | none =>
        exact (LayerProgram.quiet_toLayer (handler req)).startsNothing.atMostOnce
    | some mw => exact once mw (List.mem_of_getElem? here) req
  ends position beyond := by
    unfold stage
    rw [List.getElem?_eq_none_iff.mpr beyond]
    exact (LayerProgram.quiet_toLayer (handler req)).startsNothing

/-- Composed calls do what the nested application does. -/
theorem alike_nested
    (once : ∀ mw ∈ middlewares, ∀ req, (mw req).StartsAtMostOnce)
    (randomUUID : String) (world : World) (schedule : List Nat) :
    Tasks.Alike (compose.run middlewares handler req randomUUID world schedule)
      (Application.run middlewares handler req randomUUID world schedule) := by
  have alike := Tasks.alike_run (line_stage handler req once)
    (follows_compose middlewares handler req)
    (follows_nested middlewares handler req)
    { ctx := { requestId := randomUUID, userId := none }, world } schedule
  have start : (Application.nested middlewares handler).body req =
      stage middlewares handler req 0 := body_nested_drop _ _ _ 0
  unfold Application.run
  rw [start]
  exact alike

/-- Composed calls are made in the order of the middlewares, each once. -/
theorem inOrder_compose
    (once : ∀ mw ∈ middlewares, ∀ req, (mw req).StartsAtMostOnce)
    (randomUUID : String) (world : World) (schedule : List Nat) :
    let all := compose.run middlewares handler req randomUUID world schedule
    all.tasks.length ≤ middlewares.length + 1 ∧
      ∀ position task, all.tasks[position]? = some task →
        task.body = stage middlewares handler req position ∧
          task.caller = Tasks.predecessor position := by
  intro all
  obtain ⟨latest, stands⟩ := Tasks.inLine_run (line_stage handler req once)
    (follows_compose middlewares handler req)
    { ctx := { requestId := randomUUID, userId := none }, world } schedule
  have length : all.tasks.length = latest + 1 := stands.length
  have inside := stands.inside
  exact ⟨by omega, fun position task there =>
    ⟨stands.body there, stands.caller there⟩⟩

end Compositions

end ChatBackend.Http
