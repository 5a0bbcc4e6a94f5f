import ClawGuard.Js

namespace ClawGuard

/-- The `match` object of a policy rule; `method` and `path` are optional and an empty one
matches everything. -/
structure RuleMatch where
  method : Option String := none
  path : Option String := none
  deriving DecidableEq, Repr

/-- A policy rule. Nothing checks its shape at run time, so `match` may be missing. -/
structure PolicyRule where
  «match» : Option RuleMatch := none
  action : String
  deriving DecidableEq, Repr

/-- The credential recipe. Fields are JS values, so each may be missing at run time. -/
structure AuthConfig where
  type : Option String := none
  token : Option String := none
  headerName : Option String := none
  paramName : Option String := none
  deriving DecidableEq, Repr

structure PolicyConfig where
  default : Option String := none
  rules : Option (List PolicyRule) := none
  deriving DecidableEq, Repr

/-- `ServiceConfig`. Nothing checks its shape at run time: a config built by the admin API or
read from `Object.prototype` can lack any field. -/
structure ServiceConfig where
  upstream : Option String := none
  auth : Option AuthConfig := none
  policy : Option PolicyConfig := none
  hostnames : Option (List String) := none
  deriving DecidableEq, Repr

/-- The own properties of a service config object as a read through a prototype sees them: its
fields, none of which is itself a service config, then `others`, the object's other properties. -/
def ServiceConfig.props (c : ServiceConfig) (others : List (String × Js.Slot ServiceConfig)) :
    List (String × Js.Slot ServiceConfig) :=
  (c.upstream.map fun u => ("upstream", if u = "" then .falsy else .plain)).toList ++
    (c.auth.map fun _ => ("auth", .plain)).toList ++ (c.policy.map fun _ => ("policy", .plain)).toList ++
    (c.hostnames.map fun _ => ("hostnames", .plain)).toList ++ others

structure SecurityConfig where
  allowedUpstreams : List String
  blockPrivateIPs : Bool
  followRedirects : Bool
  maxPayloadLogSize : Nat
  deriving DecidableEq, Repr

/-- The parts of `Config` that the proxy and the admin service API read. -/
structure Config where
  agentKey : String
  services : Js.Obj ServiceConfig
  security : SecurityConfig
  logPayload : Bool
  deriving DecidableEq, Repr

/-- `config.services[name]` as a service config, when it is truthy: an own entry, or an inherited
one, which has no fields unless it is an object of a prototype installed by `PUT`. -/
def Config.service (cfg : Config) (name : String) : Option ServiceConfig :=
  match cfg.services.get name with
  | .own c => some c
  | .inherited c => some (c.getD {})
  | .missing => none

end ClawGuard
