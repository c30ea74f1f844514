import Mathlib.Algebra.GroupWithZero.Nat
import Std.Data.String.ToInt
import Trimtab.ControlPlane

set_option autoImplicit false

/-!
# The store over HTTP

The routes of the server, and the client with the interface of the store. A body travels as
the JSON value it is, a query as its pairs of texts. Timestamps are left out, as in the store.
These are the routes for what a client sends, over the abstract store; the handler of any bytes,
over the tables, does the same for it: see `ServerTables`.
-/
namespace Trimtab
open PyText Effects

inductive Method where
  | get
  | post
  | delete
  deriving DecidableEq

def Method.text : Method → String
  | .get => "GET"
  | .post => "POST"
  | .delete => "DELETE"

structure Request where
  method : Method
  path : String
  bearer : String
  query : List (String × String) := []
  body : Option (List (String × Json)) := none

structure Response where
  code : Nat
  body : Json

namespace Server

/-! ## Values as JSON -/

def intOrNull : Option Int → Json
  | none => .null
  | some n => .int n

def versionDict (v : ConfigVersion) : Json := .dict [
  ("id", .int v.id), ("replica_group", .str v.replicaGroup), ("parent_id", intOrNull v.parentId),
  ("fields", .dict v.fields.entries), ("created_by", .str v.createdBy), ("reason", .str v.reason)]

def canaryDict (id : Int) (row : CanaryRow) : Json := .dict [
  ("id", .int id), ("replica_group", .str row.replicaGroup),
  ("candidate_version_id", .int row.candidateVersionId),
  ("baseline_version_id", intOrNull row.baselineVersionId),
  ("scope", .list (row.scope.map .str)), ("gates", .list (row.gates.map fun g => .dict g.entries)),
  ("window_s", .float (.fin row.windowS)), ("status", .str row.status),
  ("decision", .str row.decision)]

def statusDict (r : String × StatusRow) : Json := .dict [
  ("replica_id", .str r.1), ("applied_version_id", intOrNull r.2.appliedVersionId),
  ("state", .str r.2.state), ("detail", .str r.2.detail)]

/-! ## Reading JSON

A value of another type than the store's parameter has, which no client sends, is refused. -/

def str? : Json → Option String
  | .str s => some s
  | _ => none

def intOrNull? : Json → Option (Option Int)
  | .null => some none
  | .int n => some (some n)
  | _ => none

def int? : Json → Option Int
  | .int n => some n
  | _ => none

def dict? : Json → Option Fields
  | .dict kvs => some (Dict.ofList kvs)
  | _ => none

def list? {α : Type} (item? : Json → Option α) : Json → Option (List α)
  | .list xs => xs.mapM item?
  | _ => none

def typed {α : Type} (v : Json) (a? : Option α) : StoreM α :=
  match a? with
  | some a => return a
  | none => throw (.typeError ("a value of type " ++ v.typeName))

def item {α : Type} (d : List (String × α)) (key : String) : StoreM α :=
  match d.lookup key with
  | some v => return v
  | none => throw (.keyError key)

def intOfText (text : String) : Except PyErr Int :=
  match text.toInt? with
  | some n => .ok n
  | none => .error (.valueError ("invalid literal for int() with base 10: " ++ pyRepr text))

def intOf : Json → Except PyErr Int
  | .bool b => .ok (if b then 1 else 0)
  | .int n => .ok n
  | .float x => x.toInt
  | .str s => intOfText s
  | v => .error (.typeError ("int() argument must be a string or a number, not " ++ v.typeName))

def floatOf : Json → Except PyErr Rat
  | .int n => .ok n
  | .float (.fin q) => .ok q
  | v => .error (.typeError ("float() argument must be a finite number, not " ++ v.typeName))

/-- `parse_qs(urlencode(query))`: a name has the list of its values, less the blank ones. -/
def parseQs (query : List (String × String)) : Dict String (List String) :=
  query.foldl (fun d p =>
    if p.2 = "" then d else d.insert p.1 ((d.get? p.1).getD [] ++ [p.2])) ∅

/-- `{k: v[0] for k, v in parse_qs(...).items()}` -/
def firstValues (query : List (String × String)) : List (String × String) :=
  (parseQs query).entries.map fun e => (e.1, e.2.headD "")

/-! ## The handler -/

def ok : Json := .dict [("ok", .bool true)]

def text (b : List (String × Json)) (key : String) : StoreM String := do
  let v ← item b key
  typed v (str? v)

def textOr (b : List (String × Json)) (key dflt : String) : StoreM String :=
  match b.lookup key with
  | some v => typed v (str? v)
  | none => return dflt

def number (b : List (String × Json)) (key : String) : StoreM Int := do
  ofExcept (intOf (← item b key))

def queryNumber (q : List (String × String)) (key : String) : StoreM Int := do
  ofExcept (intOfText (← item q key))

def texts (b : List (String × Json)) (key : String) : StoreM (List String) := do
  let v ← item b key
  typed v (list? str? v)

def tooDeep : PyErr := .runtimeError "maximum recursion depth exceeded"

section Handler

/-! `copies` says whether `dataclasses.asdict`, which copies the fields level by level, comes to
the bottom of them within the recursion limit. -/

variable (copies : Json → Bool)

def asdict (v : ConfigVersion) : StoreM Json :=
  if copies (.dict v.fields.entries) then return versionDict v else throw tooDeep

def versionOrNull : Option ConfigVersion → StoreM Json
  | none => return .null
  | some v => asdict copies v

def dispatch (method : Method) (path : String) (q : List (String × String))
    (b : List (String × Json)) : StoreM Json :=
  if path = "/health" then return ok
  else if method = .post ∧ path = "/v1/propose" then do
    let group ← text b "group"
    let fields ← item b "fields"
    let v ← Store.propose group (← typed fields (dict? fields)) (← textOr b "created_by" "api")
      (← textOr b "reason" "")
    asdict copies v
  else if method = .post ∧ path = "/v1/promote" then do
    Store.promote (← text b "group") (← number b "version_id")
    return ok
  else if method = .post ∧ path = "/v1/rollback" then do
    Store.rollback (← text b "group") (← number b "version_id")
    return ok
  else if method = .get ∧ path = "/v1/desired" then do
    let v ← match q.lookup "replica" with
      | some replica =>
        if replica = "" then Store.desired (← item q "group")
        else Store.desiredFor replica (← item q "group")
      | none => Store.desired (← item q "group")
    versionOrNull copies v
  else if method = .get ∧ path = "/v1/version" then do
    asdict copies (← Store.version (← queryNumber q "id"))
  else if method = .get ∧ path = "/v1/versions" then do
    return .list (← (← Store.versions (← item q "group")).mapM (asdict copies))
  else if method = .post ∧ path = "/v1/status" then do
    let replicaId ← text b "replica_id"
    let group ← text b "group"
    let applied := (b.lookup "applied_version_id").getD .null
    Store.recordStatusOf replicaId group (← typed applied (intOrNull? applied))
      (← text b "state") (← textOr b "detail" "")
    return ok
  else if method = .get ∧ path = "/v1/status" then do
    return .list ((← Store.status (← item q "group")).map statusDict)
  else if method = .post ∧ path = "/v1/canary/open" then do
    let group ← text b "group"
    let candidateId ← number b "candidate_id"
    let scope ← texts b "scope"
    let gates ← item b "gates"
    let id ← Store.openCanary group candidateId scope (← typed gates (list? dict? gates))
      (← ofExcept (floatOf (← item b "window_s")))
    return .dict [("id", .int id)]
  else if method = .get ∧ path = "/v1/canary" then do
    let id ← queryNumber q "id"
    return canaryDict id (← Store.canary id)
  else if method = .post ∧ path = "/v1/canary/close" then do
    Store.closeCanary (← number b "id") (← text b "status") (← textOr b "decision" "")
    return ok
  else if method = .post ∧ path = "/v1/overrides" then do
    Store.setOverrides (← texts b "replica_ids") (← number b "version_id") (← number b "canary_id")
    return ok
  else if method = .delete ∧ path = "/v1/overrides" then do
    Store.clearOverrides (← queryNumber q "canary_id")
    return ok
  else throw (.keyError ("no route " ++ method.text ++ " " ++ path))

def failure (code : Nat) (msg : String) : Response := ⟨code, .dict [("error", .str msg)]⟩

/-- `_route`. An exception that it does not catch ends the connection without a response. -/
def route (token : String) (r : Request) (s : Store) : Option Response × Store :=
  if (r.path = "/health" ∧ r.query = []) ∨ r.bearer = token then
    let b := if r.method = .get then [] else r.body.getD []
    match (dispatch copies r.method r.path (firstValues r.query) b).run s with
    | .ok v t => (some ⟨200, v⟩, t)
    | .error (.keyError msg) t => (some (failure 404 (pyRepr msg)), t)
    | .error (.valueError msg) t => (some (failure 400 msg), t)
    | .error _ t => (none, t)
  else (some (failure 401 "bad token"), s)

end Handler

end Server

/-! ## The client -/

/-- The client's results, and the store's: the dicts of a canary and of a replica's status are
JSON on both sides. -/
inductive Value where
  | none
  | version (v : Option ConfigVersion)
  | versions (vs : List (Option ConfigVersion))
  | id (n : Int)
  | json (v : Json)
  deriving DecidableEq

namespace RemoteStore
open Server

variable (copies : Json → Bool) (token : String)

/-- `{400: ValueError, 404: KeyError, 401: PermissionError}.get(e.code, RuntimeError)(msg)` -/
def raised (r : Response) : PyErr :=
  let msg := match r.body with
    | .dict kvs => ((kvs.lookup "error").bind str?).getD ""
    | _ => ""
  if r.code = 400 then .valueError msg
  else if r.code = 404 then .keyError msg
  else if r.code = 401 then .osError msg
  else .runtimeError msg

/-- `len(quote_plus(text))`: a space is a plus, and of what is reserved each byte is three
characters. -/
def quotedLength (text : String) : Nat :=
  (text.toList.map fun c =>
    if (c.isAlphanum || "_.-~ ".toList.contains c) then 1 else 3 * c.utf8Size).sum

/-- The length of `"?" + urlencode(q)`, if there is a query. -/
def queryLength (q : List (String × String)) : Nat :=
  (q.map fun p => quotedLength p.1 + quotedLength p.2 + 2).sum

/-- The length of `METHOD path?query HTTP/1.1` and its end of line. -/
def lineLength (method : Method) (path : String) (q : List (String × String)) : Nat :=
  method.text.length + 1 + path.length + queryLength q + 11

/-- The longest line that `http.server` reads as a request. It answers a longer one with a page of
HTML, which the client cannot read. -/
def maxLine : Nat := 65536

/-- `_call`, as a program on the server's store. -/
def call (method : Method) (path : String) (body : Option (List (String × Json)))
    (q : List (String × String)) : StoreM Json := fun s =>
  if maxLine < lineLength method path q then
    .error (.valueError "Expecting value: line 1 column 1 (char 0)") s
  else match route copies token ⟨method, path, token, q, body⟩ s with
  | (none, t) => .error (.osError "Remote end closed connection without response") t
  | (some r, t) => if r.code = 200 then .ok r.body t else .error (raised r) t

def ofDict (d : List (String × Json)) : Option ConfigVersion := do
  let id ← (← d.lookup "id") |> int?
  let replicaGroup ← (← d.lookup "replica_group") |> str?
  let parentId ← (← d.lookup "parent_id") |> intOrNull?
  let fields ← (← d.lookup "fields") |> dict?
  let createdBy ← (← d.lookup "created_by") |> str?
  let reason ← (← d.lookup "reason") |> str?
  return { id, replicaGroup, parentId, fields, createdBy, reason }

def cv : Json → StoreM (Option ConfigVersion)
  | .null => return none
  | .dict [] => return none
  | .dict kvs => return some (← typed (.dict kvs) (ofDict kvs))
  | v => throw (.typeError ("argument after ** must be a mapping, not " ++ v.typeName))

def propose (group : String) (fields : Fields) (createdBy reason : String) :
    StoreM (Option ConfigVersion) := do
  cv (← call copies token .post "/v1/propose" (some [("group", .str group),
    ("fields", .dict fields.entries), ("created_by", .str createdBy),
    ("reason", .str reason)]) [])

def promote (group : String) (versionId : Int) : StoreM Unit := do
  let _ ← call copies token .post "/v1/promote"
    (some [("group", .str group), ("version_id", .int versionId)]) []

def rollback (group : String) (versionId : Int) : StoreM Unit := do
  let _ ← call copies token .post "/v1/rollback"
    (some [("group", .str group), ("version_id", .int versionId)]) []

def desired (group : String) : StoreM (Option ConfigVersion) := do
  cv (← call copies token .get "/v1/desired" none [("group", group)])

def desiredFor (replicaId group : String) : StoreM (Option ConfigVersion) := do
  cv (← call copies token .get "/v1/desired" none [("group", group), ("replica", replicaId)])

def version (versionId : Int) : StoreM (Option ConfigVersion) := do
  cv (← call copies token .get "/v1/version" none [("id", versionId.repr)])

def versions (group : String) : StoreM (List (Option ConfigVersion)) := do
  match ← call copies token .get "/v1/versions" none [("group", group)] with
  | .list ds => ds.mapM cv
  | v => throw (.typeError (v.typeName ++ " object is not iterable"))

def recordStatus (replicaId group : String) (appliedVersionId : Option Int) (state detail : String) :
    StoreM Unit := do
  let _ ← call copies token .post "/v1/status" (some [("replica_id", .str replicaId),
    ("group", .str group), ("applied_version_id", intOrNull appliedVersionId),
    ("state", .str state), ("detail", .str detail)]) []

def status (group : String) : StoreM Json :=
  call copies token .get "/v1/status" none [("group", group)]

def openCanary (group : String) (candidateId : Int) (scope : List String) (gates : List Gate)
    (windowS : Rat) : StoreM Int := do
  let v ← call copies token .post "/v1/canary/open" (some [("group", .str group),
    ("candidate_id", .int candidateId), ("scope", .list (scope.map .str)),
    ("gates", .list (gates.map fun g => .dict g.entries)), ("window_s", .float (.fin windowS))]) []
  match v with
  | .dict kvs => do
    let id ← item kvs "id"
    typed id (int? id)
  | v => throw (.typeError (v.typeName ++ " object is not subscriptable"))

def canary (canaryId : Int) : StoreM Json :=
  call copies token .get "/v1/canary" none [("id", canaryId.repr)]

def closeCanary (canaryId : Int) (status decision : String) : StoreM Unit := do
  let _ ← call copies token .post "/v1/canary/close" (some [("id", .int canaryId),
    ("status", .str status), ("decision", .str decision)]) []

def setOverrides (replicaIds : List String) (versionId canaryId : Int) : StoreM Unit := do
  let _ ← call copies token .post "/v1/overrides" (some [
    ("replica_ids", .list (replicaIds.map .str)), ("version_id", .int versionId),
    ("canary_id", .int canaryId)]) []

def clearOverrides (canaryId : Int) : StoreM Unit := do
  let _ ← call copies token .delete "/v1/overrides" none [("canary_id", canaryId.repr)]

end RemoteStore

/-! ## Calls of the interface -/

inductive StoreCall where
  | propose (group : String) (fields : Fields) (createdBy reason : String)
  | promote (group : String) (versionId : Int)
  | rollback (group : String) (versionId : Int)
  | desired (group : String)
  | desiredFor (replicaId group : String)
  | version (versionId : Int)
  | versions (group : String)
  | recordStatus (replicaId group : String) (appliedVersionId : Option Int) (state detail : String)
  | status (group : String)
  | openCanary (group : String) (candidateId : Int) (scope : List String) (gates : List Gate)
      (windowS : Rat)
  | canary (canaryId : Int)
  | closeCanary (canaryId : Int) (status decision : String)
  | setOverrides (replicaIds : List String) (versionId canaryId : Int)
  | clearOverrides (canaryId : Int)

namespace StoreCall

def onStore : StoreCall → StoreM Value
  | .propose group fields createdBy reason => do
    return .version (some (← Store.propose group fields createdBy reason))
  | .promote group versionId => do
    Store.promote group versionId
    return .none
  | .rollback group versionId => do
    Store.rollback group versionId
    return .none
  | .desired group => do return .version (← Store.desired group)
  | .desiredFor replicaId group => do return .version (← Store.desiredFor replicaId group)
  | .version versionId => do return .version (some (← Store.version versionId))
  | .versions group => do return .versions ((← Store.versions group).map some)
  | .recordStatus replicaId group appliedVersionId state detail => do
    Store.recordStatusOf replicaId group appliedVersionId state detail
    return .none
  | .status group => do return .json (.list ((← Store.status group).map Server.statusDict))
  | .openCanary group candidateId scope gates windowS => do
    return .id (← Store.openCanary group candidateId scope gates windowS)
  | .canary canaryId => do return .json (Server.canaryDict canaryId (← Store.canary canaryId))
  | .closeCanary canaryId newStatus decision => do
    Store.closeCanary canaryId newStatus decision
    return .none
  | .setOverrides replicaIds versionId canaryId => do
    Store.setOverrides replicaIds versionId canaryId
    return .none
  | .clearOverrides canaryId => do
    Store.clearOverrides canaryId
    return .none

def onRemote (copies : Json → Bool) (token : String) : StoreCall → StoreM Value
  | .propose group fields createdBy reason => do
    return .version (← RemoteStore.propose copies token group fields createdBy reason)
  | .promote group versionId => do
    RemoteStore.promote copies token group versionId
    return .none
  | .rollback group versionId => do
    RemoteStore.rollback copies token group versionId
    return .none
  | .desired group => do return .version (← RemoteStore.desired copies token group)
  | .desiredFor replicaId group => do
    return .version (← RemoteStore.desiredFor copies token replicaId group)
  | .version versionId => do return .version (← RemoteStore.version copies token versionId)
  | .versions group => do return .versions (← RemoteStore.versions copies token group)
  | .recordStatus replicaId group appliedVersionId state detail => do
    RemoteStore.recordStatus copies token replicaId group appliedVersionId state detail
    return .none
  | .status group => do return .json (← RemoteStore.status copies token group)
  | .openCanary group candidateId scope gates windowS => do
    return .id (← RemoteStore.openCanary copies token group candidateId scope gates windowS)
  | .canary canaryId => do return .json (← RemoteStore.canary copies token canaryId)
  | .closeCanary canaryId newStatus decision => do
    RemoteStore.closeCanary copies token canaryId newStatus decision
    return .none
  | .setOverrides replicaIds versionId canaryId => do
    RemoteStore.setOverrides copies token replicaIds versionId canaryId
    return .none
  | .clearOverrides canaryId => do
    RemoteStore.clearOverrides copies token canaryId
    return .none

/-- What a caller sees of a call: the result, or the type of the exception. -/
def answer (x : StoreM Value) (s : Store) : Except String Value :=
  match x.run s with
  | .ok v _ => .ok v
  | .error e _ => .error e.typeName

end StoreCall
end Trimtab
