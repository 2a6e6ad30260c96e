import Preflight.Service.Target

namespace Preflight

inductive Endpoint where
  | health
  | checkDocument
  | list
  | create
  | checkStored (id : String)
  | erase (id : String)
  | asset
  deriving DecidableEq, Repr

namespace Endpoint

def methods : Endpoint → List String
  | health | list | asset => ["GET", "HEAD"]
  | checkDocument | create | checkStored _ => ["POST"]
  | erase _ => ["DELETE"]

def atPath : List String → List Endpoint
  | ["api", "health"] => [health]
  | ["api", "missions"] => [list, create]
  | ["api", "missions", "check"] => [checkDocument, erase "check"]
  | ["api", "missions", id] => if id.isEmpty then [] else [erase id]
  | ["api", "missions", id, "check"] => if id.isEmpty then [] else [checkStored id]
  | "static" :: name :: _ => if name.isEmpty then [] else [asset]
  | _ => []

end Endpoint

inductive Route where
  | to (endpoint : Endpoint)
  | options
  | moved
  | notAllowed
  | unknown
  deriving DecidableEq, Repr

namespace Route

def among (method : String) (endpoints : List Endpoint) : Route :=
  match endpoints.find? fun e => e.methods.contains method with
  | some endpoint => .to endpoint
  | none => if endpoints.isEmpty then .unknown else if method = "OPTIONS" then .options else .notAllowed

def isFound : Route → Bool
  | .to _ | .options => true
  | _ => false

def ofPath (method : String) (path : List Char) : Route :=
  let direct := among method (Endpoint.atPath (Target.segments path))
  if direct.isFound then direct
  else
    let merged := among method (Endpoint.atPath (Target.segments (Target.mergeSlashes path)))
    if merged.isFound then .moved else merged

end Route

end Preflight
