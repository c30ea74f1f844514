import Trimtab.Server
import Trimtab.SqlStore

set_option autoImplicit false

/-!
# The handler, request by request

A request is what its bytes are: a target, two headers and a body, in which there may be JSON of
any shape, or none. `http.server` has read its line and its headers by then, and has answered those
that it cannot read itself.
-/
namespace Trimtab.SqlStore.Handler
open PyText Effects

structure HttpRequest where
  method : Method
  target : String
  authorization : Option String
  contentLength : Option String
  /-- What the client sends before it closes its side. -/
  body : List UInt8

structure Serving where
  store : Tables
  sent : List Response

abbrev ServingM := EStateM Fault Serving

/-! ### Arguments -/

def item (b : Json) (key : String) : Except Fault Json :=
  match b with
  | .dict kvs =>
    match kvs.lookup key with
    | some v => .ok v
    | none => .error (.python (.keyError key))
  | .list _ => .error (.python (.typeError "list indices must be integers or slices, not str"))
  | .str _ => .error (.python (.typeError "string indices must be integers, not 'str'"))
  | v => .error (.python (.typeError (pyRepr v.typeName ++ " object is not subscriptable")))

def getOr (b : Json) (key : String) (dflt : Json) : Except Fault Json :=
  match b with
  | .dict kvs => .ok ((kvs.lookup key).getD dflt)
  | v => .error (.python (.attributeError (pyRepr v.typeName ++ " object has no attribute 'get'")))

def queryItem (q : List (String × String)) (key : String) : Except Fault String :=
  match q.lookup key with
  | some v => .ok v
  | none => .error (.python (.keyError key))

def toInt (v : Json) : Except Fault Int := python v.asInt

def toFloat (v : Json) : Except Fault PyFloat := python v.asFloat

/-! ### Results -/

def SqlValue.toJson : SqlValue → Json
  | .null => .null
  | .int n => .int n
  | .real x => .float x
  | .text s => .str s

def versionDict (v : ConfigVersion) : Json := .dict [
  ("id", .int v.id), ("replica_group", .str v.replicaGroup), ("parent_id", intOrNull v.parentId),
  ("fields", v.fields), ("created_by", .str v.createdBy), ("reason", .str v.reason)]

def canaryDict (id : Int) (row : CanaryRow) : Json := .dict [
  ("id", .int id), ("replica_group", .str row.replicaGroup),
  ("candidate_version_id", .int row.candidateVersionId),
  ("baseline_version_id", intOrNull row.baselineVersionId), ("scope", row.scope),
  ("gates", row.gates), ("window_s", .float row.windowS), ("status", .str row.status),
  ("decision", .str row.decision)]

def statusDict (r : Option String × StatusRow) : Json := .dict [
  ("replica_id", (r.1.map .str).getD .null),
  ("applied_version_id", SqlValue.toJson r.2.appliedVersionId), ("state", .str r.2.state),
  ("detail", .str r.2.detail)]

section Handler

variable (P : Platform)

def asdict (v : ConfigVersion) : TablesM Json :=
  if P.copies v.fields then return versionDict v else throw (.python Server.tooDeep)

def versionOrNull : Option ConfigVersion → TablesM Json
  | none => return .null
  | some v => asdict P v

def dispatch (method : Method) (path : String) (q : List (String × String)) (b : Json) :
    TablesM Json :=
  if path = "/health" then return Server.ok
  else if method = .post ∧ path = "/v1/propose" then do
    let group ← ofExcept (item b "group")
    let fields ← ofExcept (item b "fields")
    let createdBy ← ofExcept (getOr b "created_by" (.str "api"))
    let reason ← ofExcept (getOr b "reason" (.str ""))
    asdict P (← propose P group fields createdBy reason)
  else if method = .post ∧ path = "/v1/promote" then do
    let group ← ofExcept (item b "group")
    let versionId ← ofExcept (toInt (← ofExcept (item b "version_id")))
    promote P group versionId
    return Server.ok
  else if method = .post ∧ path = "/v1/rollback" then do
    let group ← ofExcept (item b "group")
    let versionId ← ofExcept (toInt (← ofExcept (item b "version_id")))
    rollback P group versionId
    return Server.ok
  else if method = .get ∧ path = "/v1/desired" then do
    match q.lookup "replica" with
    | some replica =>
      if replica = "" then do
        let group ← ofExcept (queryItem q "group")
        versionOrNull P (← desired P (.str group))
      else do
        let group ← ofExcept (queryItem q "group")
        versionOrNull P (← desiredFor P (.str replica) (.str group))
    | none => do
      let group ← ofExcept (queryItem q "group")
      versionOrNull P (← desired P (.str group))
  else if method = .get ∧ path = "/v1/version" then do
    let id ← ofExcept (toInt (.str (← ofExcept (queryItem q "id"))))
    asdict P (← version P id)
  else if method = .get ∧ path = "/v1/versions" then do
    let group ← ofExcept (queryItem q "group")
    return .list (← (← versions P (.str group)).mapM (asdict P))
  else if method = .post ∧ path = "/v1/status" then do
    let replicaId ← ofExcept (item b "replica_id")
    let group ← ofExcept (item b "group")
    let applied ← ofExcept (getOr b "applied_version_id" .null)
    let state ← ofExcept (item b "state")
    let detail ← ofExcept (getOr b "detail" (.str ""))
    recordStatus P replicaId group applied state detail
    return Server.ok
  else if method = .get ∧ path = "/v1/status" then do
    let group ← ofExcept (queryItem q "group")
    return .list ((← status P (.str group)).map statusDict)
  else if method = .post ∧ path = "/v1/canary/open" then do
    let group ← ofExcept (item b "group")
    let candidateId ← ofExcept (toInt (← ofExcept (item b "candidate_id")))
    let scope ← ofExcept (item b "scope")
    let gates ← ofExcept (item b "gates")
    let windowS ← ofExcept (toFloat (← ofExcept (item b "window_s")))
    return .dict [("id", .int (← openCanary P group candidateId scope gates windowS))]
  else if method = .get ∧ path = "/v1/canary" then do
    let id ← ofExcept (toInt (.str (← ofExcept (queryItem q "id"))))
    return canaryDict id (← canary P id)
  else if method = .post ∧ path = "/v1/canary/close" then do
    let id ← ofExcept (toInt (← ofExcept (item b "id")))
    let status ← ofExcept (item b "status")
    let decision ← ofExcept (getOr b "decision" (.str ""))
    closeCanary P id status decision
    return Server.ok
  else if method = .post ∧ path = "/v1/overrides" then do
    let replicaIds ← ofExcept (item b "replica_ids")
    let versionId ← ofExcept (toInt (← ofExcept (item b "version_id")))
    let canaryId ← ofExcept (toInt (← ofExcept (item b "canary_id")))
    setOverrides P replicaIds versionId canaryId
    return Server.ok
  else if method = .delete ∧ path = "/v1/overrides" then do
    let canaryId ← ofExcept (toInt (.str (← ofExcept (queryItem q "canary_id"))))
    clearOverrides P canaryId
    return Server.ok
  else throw (.python (.keyError ("no route " ++ method.text ++ " " ++ path)))

def sendJson (code : Nat) (obj : Json) : ServingM Unit :=
  modify fun s => { s with sent := s.sent ++ [⟨code, obj⟩] }

def errorDict (msg : String) : Json := .dict [("error", .str msg)]

def authorized (token : String) (r : HttpRequest) : Bool :=
  r.target = "/health" || r.authorization = some ("Bearer " ++ token)

def auth (token : String) (r : HttpRequest) : ServingM Bool := do
  if authorized token r then return true
  else do
    sendJson 401 (errorDict "bad token")
    return false

/-- `int(self.headers.get("Content-Length") or 0)` -/
def contentLength (r : HttpRequest) : Except Fault Int :=
  match r.contentLength with
  | none => .ok 0
  | some "" => .ok 0
  | some text => toInt (.str text)

/-- `self.rfile.read(n)`: with -1, all that the client sends. -/
def readBody (body : List UInt8) (n : Int) : Except Fault (List UInt8) := do
  if !fits n then
    throw (.python (.overflowError "cannot fit 'int' into an index-sized integer"))
  else if n < -1 then
    throw (.python (.valueError "read length must be non-negative or -1"))
  else if n = -1 then return body
  else
    python (P.allocate n.toNat)
    return body.take n.toNat

def emptyObject : List UInt8 := [123, 125]

def parsedBody (r : HttpRequest) : Except Fault Json := do
  let bytes ← readBody P r.body (← contentLength r)
  python (P.loads (if bytes = [] then emptyObject else bytes))

/-- The exceptions that `_route` answers, and how. -/
def answer? : Fault → Option Response
  | .python (.keyError msg) => some ⟨404, errorDict (PyErr.keyError msg).str⟩
  | .python (.valueError msg) => some ⟨400, errorDict msg⟩
  | _ => none

def route (token : String) (r : HttpRequest) : ServingM Unit := do
  if ← auth token r then do
    let (path, q) ← ofExcept (python (P.urlparse r.target))
    let b ← if r.method = .get then pure (.dict []) else ofExcept (parsedBody P r)
    let response ← rescue
      (do return ⟨200, ← zoom Serving.store (fun t s => { s with store := t })
        (dispatch P r.method path q b)⟩)
      fun e => match answer? e with
        | some response => return response
        | none => throw e
    sendJson response.code response.body

end Handler

end Trimtab.SqlStore.Handler
