import ClawGuard.Config

namespace ClawGuard.Approval

/-- `matchesRule`: an empty or missing `method`/`path` is falsy and matches everything; a rule
without `match` throws on `rule.match.method`. -/
def matchesRule (rule : PolicyRule) (method path : String) : Except String Bool :=
  match rule.match with
  | none => .error "TypeError: Cannot read properties of undefined (reading \x27method\x27)"
  | some m =>
    .ok ((match m.method with
        | some mm => mm == "" || Js.toUpperCase mm == Js.toUpperCase method
        | none => true) &&
      (match m.path with
        | some p => p == "" || Js.startsWith path p
        | none => true))

/-- `getAction`: the action of the first matching rule, else the default (either may be
`undefined`). `.error` is the `TypeError` of a config without `policy`, or of a rule without
`match` reached before a matching one. -/
def getAction (serviceConfig : ServiceConfig) (method path : String) : Except String (Option String) :=
  match serviceConfig.policy with
  | none => .error "TypeError: Cannot read properties of undefined (reading \x27rules\x27)"
  | some policy =>
    match (policy.rules.getD []).findM? (matchesRule · method path) with
    | .error e => .error e
    | .ok (some rule) => .ok (some rule.action)
    | .ok none => .ok policy.default

end ClawGuard.Approval
