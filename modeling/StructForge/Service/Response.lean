import StructForge.Service.Request

/-! # Responses

The service answers at two places, each with one method. Every request for a run is a run of
its own; only the tree is passed on. -/

namespace StructForge.Service

open Files Batch

structure Request where
  method : String
  target : String
  body : String
  deriving DecidableEq, Repr

/-- A response: a value, the faults of a body, or the bare notice of a failure. -/
inductive Response where
  | value (status : Nat) (v : Json)
  | invalid (faults : List Invalid)
  | broken
  deriving Repr

namespace Response

def status : Response → Nat
  | .value status _ => status
  | .invalid _ => 422
  | .broken => 500

def detail (status : Nat) (text : String) : Response :=
  .value status (.ofMembers [("detail", .text text)])

def ofFault (f : Fault) : Response :=
  if f.kind.isImport then detail 404 f.message
  else if f.kind == .badType || f.kind.isBadState then detail 400 f.message
  else .broken

def pathText (o : Outcome) : String := (o.path?.map Path.text).getD ""

def failureValue (o : Outcome) : Json :=
  .ofMembers [("type_name", .text o.source), ("error", .text (o.error?.getD ""))]

def droppedValues (o : Outcome) : List Json :=
  o.dropped.map fun d =>
    .ofMembers [("type_name", .text o.source), ("field", .text d.name), ("reason", .text d.reason)]

def reportValue (r : Report) : Json :=
  .ofMembers [
    ("status", .text (if r.isOk then "ok" else "partial")),
    ("written", .ofTexts (r.written.map pathText)),
    ("previewed", .ofTexts (r.previewed.map pathText)),
    ("skipped", .ofTexts (r.skipped.map Outcome.source)),
    ("failed", .list (r.failed.map failureValue)),
    ("dropped", .list (r.outcomes.flatMap droppedValues))]

def health : Response := .value 200 (.ofMembers [("status", .text "ok")])

end Response

/-- The two places. -/
inductive Route where
  | health
  | generate
  deriving DecidableEq, Repr

namespace Route

def path : Route → String
  | .health => "/health"
  | .generate => "/generate"

def method : Route → String
  | .health => "GET"
  | .generate => "POST"

end Route

/-- The path that a target leads to: without a query, and without slashes at its end. -/
def routePath (target : String) : String :=
  let path := target.toList.takeWhile fun c => c != '?' && c != '#'
  String.ofList (path.reverse.dropWhile (· == '/')).reverse

def route? (target : String) : Option Route :=
  [Route.health, .generate].find? fun r => r.path == routePath target

def generate (p : Program) (body : String) (t : Tree) : Response × Tree :=
  match checkBody body with
  | .error faults => (.invalid faults, t)
  | .ok request =>
    match runProject p request t with
    | (.error f, t, _) => (.ofFault f, t)
    | (.ok r, t, _) => (.value 200 (Response.reportValue r), t)

def respond (p : Program) (r : Request) (t : Tree) : Response × Tree :=
  match route? r.target with
  | none => (.detail 404 "Not Found", t)
  | some route =>
    if r.method != route.method then (.detail 405 "Method Not Allowed", t)
    else match route with
      | .health => (.health, t)
      | .generate => generate p r.body t

end StructForge.Service
