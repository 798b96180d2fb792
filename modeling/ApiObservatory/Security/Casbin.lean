import ApiObservatory.Foundation.Closure
import ApiObservatory.Platform.Routes

/-
Role-based access control: the Casbin model and the two copies of its policy
(`services/ingestor/core/security/`, the seeding migration), and the guard of
the routes (`casbin_guard` in `services/ingestor/core/auth.py`).

A policy holds p-rules, which say what a role may do, and g-rules, which link a
user or a role to a role in a domain. Casbin evaluates the matcher on every
p-rule; its function `g` is the closure of the links whose domain matches.
-/

namespace ApiObservatory.Security

open Foundation

/-- A row of `casbin_rule`. -/
structure CasbinRule where
  ptype : String
  v0 : String
  v1 : String
  v2 : String
  v3 : Option String := none
deriving DecidableEq

structure PRule where
  sub : String
  dom : String
  obj : String
  act : String
deriving DecidableEq

structure GRule where
  user : String
  role : String
  domain : String
deriving DecidableEq

structure Policy where
  p : List PRule
  g : List GRule
deriving DecidableEq

/-! ### The policies -/

/-- `casbin_policy.csv`. -/
def casbinPolicy : Policy where
  p :=
    [{ sub := "user", dom := "*", obj := "*", act := "access" },
     { sub := "manager", dom := "*", obj := "*", act := "access" },
     { sub := "admin", dom := "*", obj := "*", act := "access" }]
  g :=
    [{ user := "admin", role := "manager", domain := "*" },
     { user := "manager", role := "user", domain := "*" }]

/-- The rows the migration inserts into `casbin_rule`. -/
def seededRules : List CasbinRule :=
  [{ ptype := "g", v0 := "admin", v1 := "manager", v2 := "*" },
   { ptype := "g", v0 := "manager", v1 := "user", v2 := "*" },
   { ptype := "p", v0 := "user", v1 := "*", v2 := "*", v3 := some "access" },
   { ptype := "p", v0 := "manager", v1 := "*", v2 := "*", v3 := some "access" },
   { ptype := "p", v0 := "admin", v1 := "*", v2 := "*", v3 := some "access" }]

/-- Loading the table: the null columns at the end of a row are not part of its
rule. -/
def loadPolicy (rules : List CasbinRule) : Policy where
  p := rules.filterMap fun rule =>
    if rule.ptype = "p" then
      rule.v3.map fun act => { sub := rule.v0, dom := rule.v1, obj := rule.v2, act }
    else none
  g := rules.filterMap fun rule =>
    if rule.ptype = "g" then some { user := rule.v0, role := rule.v1, domain := rule.v2 }
    else none

/-- Both copies give one policy. -/
theorem loadPolicy_seededRules : loadPolicy seededRules = casbinPolicy := by
  decide

/-! ### The matcher -/

/-- `key_match`: a `*` in `key2` matches every rest. -/
def keyMatch (key1 key2 : String) : Bool :=
  match key2.toList.idxOf? '*' with
  | none => key1 == key2
  | some i =>
      if i < key1.length then key1.toList.take i == key2.toList.take i
      else key1.toList == key2.toList.take i

/-- The links of a domain. -/
def Policy.links (policy : Policy) (domain : String) : List (String × String) :=
  (policy.g.filter fun rule => keyMatch domain rule.domain).map fun rule => (rule.user, rule.role)

/-- The function `g` of the matcher. -/
def Policy.hasLink (policy : Policy) (user role domain : String) : Bool :=
  reaches (policy.links domain) user role

/-- `is_superuser`. -/
def isSuperuser (superadminSubject subject : String) : Bool :=
  subject ≠ "" && subject == superadminSubject

/-- The matcher and the effect: some p-rule allows the request. -/
def Policy.enforce (policy : Policy) (superadminSubject sub dom obj act : String) : Bool :=
  policy.p.any fun p =>
    isSuperuser superadminSubject sub ||
      (policy.hasLink sub p.sub dom && (p.dom == "*" || p.dom == dom) &&
        (p.obj == "*" || p.obj == obj) && (p.act == "*" || p.act == act))

/-! ### The guard -/

/-- The claims of a verified token; `tenantId` is the `str` of that claim. -/
structure Claims where
  sub : Option String
  tenantId : Option String
deriving DecidableEq

/-- `claims.get("sub") or ""`. -/
def Claims.subject (claims : Claims) : String := claims.sub.getD ""

/-- The domain of a request. -/
def Claims.domain (claims : Claims) : String := claims.tenantId.getD "*"

/-- `str.lower` of an ASCII string, such as the name of a role. -/
def lower (text : String) : String := String.ofList (text.toList.map Char.toLower)

/-- `casbin_guard`. -/
def casbinGuard (superadminSubject : String) (policy : Policy) (requiredRoles : List String)
    (claims : Claims) : Except RouteError Claims :=
  let normalizedRequired := requiredRoles.map lower
  if isSuperuser superadminSubject claims.subject then .ok claims
  else if normalizedRequired.any fun role =>
      policy.enforce superadminSubject claims.subject claims.domain role "access" then .ok claims
  else .error (.httpException 403 "Insufficient role permissions")

end ApiObservatory.Security
