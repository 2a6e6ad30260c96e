import Preflight.Checker
import Preflight.Document.Plan
import Preflight.Json.Reader
import Preflight.Json.Plain
import Preflight.Service.Endpoint
import Preflight.Settings
import Preflight.Store.Directory

/-!
The service: missions are stored, listed, removed and checked by requests. `Service.answer` gives the response to
a request together with the service after it; a fault that no response is made of is given as it is.
-/
namespace Preflight

structure Request where
  method : String
  target : String
  contentType : Option String := none
  body : List UInt8 := []

structure Response where
  status : Nat
  document : Option Value := none

namespace Response

def ok (document : Value) : Response := ⟨200, some document⟩

def refusal (status : Nat) (reason : String) : Response := ⟨status, some (.mapping [("error", .text reason)])⟩

def noData : Response := refusal 400 "No data provided"

def noMission : Response := refusal 404 "Mission not found"

def refusing (groups : List Fault.Group) (fault : Fault) : Except Fault Response :=
  if fault.isAmong groups then .ok (refusal 400 fault.message) else .error fault

end Response

namespace Request

def isWhole (r : Request) : Bool := !(r.contentType.getD "").toList.any fun c => c == '\r' || c == '\n'

def mediaType (r : Request) : String :=
  let cs := ((r.contentType.getD "").toList).takeWhile (· != ';')
  Text.toLower (String.ofList (Numeral.trim cs))

def isJson (r : Request) : Bool :=
  r.mediaType == "application/json" || (r.mediaType.startsWith "application/" && r.mediaType.endsWith "+json")

def document (r : Request) : Value :=
  if r.isJson then (Json.ofOctets? (r.body.map UInt8.toNat)).getD .null else .null

end Request

structure Service where
  settings : Settings
  store : DirectoryStore
  ids : Ids := {}

namespace Service

abbrev Reply := Except Fault Response × Service

def limit (s : Service) (data : Value) (name : String) : Except Fault Limit := do
  return .meters (← (← data.getD name (s.settings.get .feasibility name)).toReal)

def limits (s : Service) (data : Value) : Except Fault Limits := do
  return { first := ← s.limit data "max_distance_to_first_waypoint"
           between := ← s.limit data "max_distance_between_waypoints" }

def vehicle (s : Service) (home : Option Home) (data : Value) : Except Fault Vehicle := do
  s.settings.vehicleWith home (← data.getD "vehicle" .null)

def told (verdict : Except Fault Verdict) : Except Fault Response := do
  return .ok (← (← verdict).toValue)

def checkRefusals : List Fault.Group := [.invalid, .value, .kind]

def readCheck (s : Service) (data : Value) : Except Fault (Document × Vehicle × Limits) := do
  let d ← Document.ofValue data
  let vehicle ← s.vehicle d.home data
  return (d, vehicle, ← s.limits data)

def checkDocument (s : Service) (data : Value) : Reply :=
  if !data.isGiven then (.ok .noData, s)
  else match s.readCheck data with
    | .error fault => (Response.refusing checkRefusals fault, s)
    | .ok (d, vehicle, limits) =>
      let (answer, ids) := checkItems s.ids d.items vehicle d.fence limits
      (told answer.verdict, { s with ids })

def create (s : Service) (data : Value) : Reply :=
  if !data.isGiven then (.ok .noData, s)
  else match Document.ofValue data with
    | .error fault => (Response.refusing [.invalid] fault, s)
    | .ok d =>
      let (id, ids) := s.ids.next
      let stored := s.store.insert id d.items
      (stored.result.map fun mission =>
          ⟨201, some (.mapping [("storage_id", .text mission.storageId), ("count", .whole mission.count)])⟩,
        { s with store := stored.store, ids })

def readStoredCheck (s : Service) (data : Value) : Except Fault (Vehicle × Geofence × Limits) := do
  let vehicle ← s.vehicle (← Home.underKey data "home") data
  let fence ← Document.fenceUnder data "geofence"
  return (vehicle, fence, ← s.limits data)

def checkMission (s : Service) (mission : Mission) (given : Value) : Reply :=
  let data := if given.isGiven then given else .mapping []
  match s.readStoredCheck data with
  | .error fault => (Response.refusing checkRefusals fault, s)
  | .ok (vehicle, fence, limits) =>
    let checker : Checker DirectoryStore := { read := DirectoryStore.read, vehicle, fence }
    let answer := checker.check mission limits s.store
    (told answer.verdict, { s with store := answer.store })

def checkStored (s : Service) (id : String) (given : Value) : Reply :=
  let found := s.store.get? id
  let s := { s with store := found.store }
  match found.result with
  | .error fault => (.error fault, s)
  | .ok none => (.ok .noMission, s)
  | .ok (some mission) => s.checkMission mission given

def erase (s : Service) (id : String) : Reply :=
  let removed := s.store.erase id
  (removed.result.map fun there =>
      if there then .ok (.mapping [("success", .boolean true)]) else .noMission,
    { s with store := removed.store })

def health (s : Service) : Except Fault Response := do
  let airframe ← Json.plain (s.settings.get .vehicle "type")
  return .ok (.mapping [("status", .text "ok"), ("vehicle_type", airframe)])

def answerAt (s : Service) (endpoint : Endpoint) (r : Request) : Reply :=
  match endpoint with
  | .health => (s.health, s)
  | .checkDocument => s.checkDocument r.document
  | .list => (.ok (.ok (.mapping [("missions", .list (s.store.list.map .text))])), s)
  | .create => s.create r.document
  | .checkStored id => s.checkStored id r.document
  | .erase id => s.erase id
  | .asset => (.ok ⟨404, none⟩, s)

def headersOnly : Reply → Reply
  | (.ok response, s) => (.ok { response with document := none }, s)
  | reply => reply

def answerPath (s : Service) (r : Request) (path : List Char) : Reply :=
  let method := Text.toUpper r.method
  match Route.ofPath method path with
  | .to endpoint => if method = "HEAD" then headersOnly (s.answerAt endpoint r) else s.answerAt endpoint r
  | .options => (.ok ⟨200, none⟩, s)
  | .moved => (.ok ⟨308, none⟩, s)
  | .notAllowed => (.ok ⟨405, none⟩, s)
  | .unknown => (.ok ⟨404, none⟩, s)

def answer (s : Service) (r : Request) : Reply :=
  match Target.path r.target with
  | .ok path => if r.isWhole then s.answerPath r path else (.error .brokenHeader, s)
  | .error fault => (.error fault, s)

end Service

end Preflight
