import ApiObservatory.Security.Casbin

/-
What the role guard admits.

Every p-rule of the policy allows every object, and the required role is only
passed as the object. So the guard does not look at it: it admits whoever
reaches any role, which are the holders of a role and the subjects spelled like
one.
-/

namespace ApiObservatory.Security

open Foundation

inductive Role where
  | admin | manager | user
deriving DecidableEq

def Role.text : Role → String
  | .admin => "admin"
  | .manager => "manager"
  | .user => "user"

/-- A stored g-rule that gives a user a role. -/
structure Assignment where
  username : String
  role : Role
  domain : String
deriving DecidableEq

def Assignment.rule (assignment : Assignment) : GRule where
  user := assignment.username
  role := assignment.role.text
  domain := assignment.domain

/-- A policy with role assignments. -/
def Policy.assign (policy : Policy) (assignments : List Assignment) : Policy :=
  { policy with g := policy.g ++ assignments.map Assignment.rule }

/-- The subject holds a role in a domain. -/
def HoldsRole (assignments : List Assignment) (subject domain : String) (role : Role) : Prop :=
  ∃ assignment ∈ assignments, assignment.username = subject ∧
    keyMatch domain assignment.domain = true ∧ assignment.role = role

/-- `held` is `required` or above it in the hierarchy of the policy file. -/
def AtLeast (held : Role) (required : String) : Prop :=
  reaches (casbinPolicy.g.map fun rule => (rule.user, rule.role)) held.text required = true

instance (held : Role) (required : String) : Decidable (AtLeast held required) :=
  inferInstanceAs (Decidable (_ = true))

/-- The subject holds one of the required roles or a role above one. -/
def Entitled (assignments : List Assignment) (subject domain : String)
    (requiredRoles : List String) : Prop :=
  ∃ required ∈ requiredRoles, ∃ held, HoldsRole assignments subject domain held ∧
    AtLeast held (lower required)

/-! ### The matcher on the policy -/

@[simp] theorem keyMatch_star (domain : String) : keyMatch domain "*" = true := by
  have pattern : "*".toList.idxOf? '*' = some 0 := by decide
  unfold keyMatch
  rw [pattern]
  dsimp only
  split
  · simp
  · have empty : domain.toList = [] := by
      rw [← List.length_eq_zero_iff, String.length_toList]
      omega
    simp [empty]

/-- The links of a domain: the hierarchy and the assignments that match. -/
theorem mem_links_assign {assignments : List Assignment} {domain : String} {link : String × String} :
    link ∈ (casbinPolicy.assign assignments).links domain ↔
      link = ("admin", "manager") ∨ link = ("manager", "user") ∨
        ∃ role, HoldsRole assignments link.1 domain role ∧ link.2 = role.text := by
  obtain ⟨subject, target⟩ := link
  simp only [Policy.links, Policy.assign, casbinPolicy, List.mem_map, List.mem_filter,
    List.mem_append, List.mem_cons, List.not_mem_nil, or_false, HoldsRole]
  constructor
  · rintro ⟨rule, ⟨(rfl | rfl) | ⟨assignment, mem, rfl⟩, matched⟩, same⟩
    · exact Or.inl same.symm
    · exact Or.inr (Or.inl same.symm)
    · obtain ⟨rfl, rfl⟩ := Prod.mk.inj same
      exact Or.inr (Or.inr ⟨assignment.role, ⟨assignment, mem, rfl, matched, rfl⟩, rfl⟩)
  · rintro (same | same | ⟨role, ⟨assignment, mem, rfl, matched, rfl⟩, rfl⟩)
    · exact ⟨_, ⟨Or.inl (Or.inl rfl), keyMatch_star domain⟩, same.symm⟩
    · exact ⟨_, ⟨Or.inl (Or.inr rfl), keyMatch_star domain⟩, same.symm⟩
    · exact ⟨assignment.rule, ⟨Or.inr ⟨assignment, mem, rfl⟩, matched⟩, rfl⟩

/-- No p-rule of the policy restricts the domain, the object or the action. -/
theorem enforce_assign {superadminSubject subject : String} {assignments : List Assignment}
    (ordinary : isSuperuser superadminSubject subject = false) (domain required : String) :
    (casbinPolicy.assign assignments).enforce superadminSubject subject domain required "access" =
      true ↔ ∃ role : Role, (casbinPolicy.assign assignments).hasLink subject role.text domain := by
  unfold Policy.enforce
  rw [List.any_eq_true]
  simp only [ordinary, Bool.false_or]
  constructor
  · rintro ⟨p, mem, allowed⟩
    simp only [Bool.and_eq_true] at allowed
    have role : ∃ role : Role, p.sub = role.text := by
      simp only [Policy.assign, casbinPolicy, List.mem_cons, List.not_mem_nil, or_false] at mem
      rcases mem with rfl | rfl | rfl
      · exact ⟨.user, rfl⟩
      · exact ⟨.manager, rfl⟩
      · exact ⟨.admin, rfl⟩
    obtain ⟨role, same⟩ := role
    exact ⟨role, same ▸ allowed.1.1.1⟩
  · rintro ⟨role, linked⟩
    refine ⟨{ sub := role.text, dom := "*", obj := "*", act := "access" }, ?_, ?_⟩
    · cases role <;> simp [Policy.assign, casbinPolicy, Role.text]
    · simp [linked]

/-- Whoever reaches a role holds one, or is spelled like one. -/
theorem reaches_role_iff {assignments : List Assignment} {subject domain : String} :
    (∃ role : Role, (casbinPolicy.assign assignments).hasLink subject role.text domain) ↔
      (∃ role, HoldsRole assignments subject domain role) ∨ ∃ role : Role, subject = role.text := by
  constructor
  · rintro ⟨role, linked⟩
    rcases reaches_cases linked with same | ⟨target, first, -⟩
    · exact Or.inr ⟨role, same⟩
    · rcases mem_links_assign.mp first with here | here | ⟨held, holds, -⟩
      · exact Or.inr ⟨.admin, congrArg Prod.fst here⟩
      · exact Or.inr ⟨.manager, congrArg Prod.fst here⟩
      · exact Or.inl ⟨held, holds⟩
  · rintro (⟨role, holds⟩ | ⟨role, rfl⟩)
    · exact ⟨role, reaches_of_mem (mem_links_assign.mpr (Or.inr (Or.inr ⟨role, holds, rfl⟩)))⟩
    · exact ⟨role, reaches_refl _ _⟩

/-- **What the guard admits**: holders of any role, and subjects spelled like one. -/
theorem casbinGuard_ok_iff {superadminSubject : String} {assignments : List Assignment}
    {requiredRoles : List String} {claims : Claims}
    (ordinary : isSuperuser superadminSubject claims.subject = false)
    (some_required : requiredRoles ≠ []) :
    casbinGuard superadminSubject (casbinPolicy.assign assignments) requiredRoles claims =
        .ok claims ↔
      (∃ role, HoldsRole assignments claims.subject claims.domain role) ∨
        ∃ role : Role, claims.subject = role.text := by
  rw [← reaches_role_iff, casbinGuard, ordinary, if_neg Bool.false_ne_true]
  constructor
  · intro admitted
    split at admitted
    · rename_i enforced
      obtain ⟨required, -, allowed⟩ := List.any_eq_true.mp enforced
      exact (enforce_assign ordinary _ _).mp allowed
    · cases admitted
  · intro reached
    obtain ⟨required, rest, rfl⟩ := List.exists_cons_of_ne_nil some_required
    rw [if_pos]
    rw [List.map_cons, List.any_cons, (enforce_assign ordinary _ _).mpr reached, Bool.true_or]

/-! ### Soundness -/

/-- **When the guard is sound.** With the file policy as with the seeded one, an
admitted subject is entitled exactly when the subject is entitled, or holds no
role in the domain and is not spelled like one. -/
theorem role_guard_sound_iff {superadminSubject : String} {policy : Policy}
    (stored : policy = casbinPolicy ∨ policy = loadPolicy seededRules)
    {assignments : List Assignment} {requiredRoles : List String} {claims : Claims}
    (ordinary : isSuperuser superadminSubject claims.subject = false)
    (some_required : requiredRoles ≠ []) :
    (casbinGuard superadminSubject (policy.assign assignments) requiredRoles claims = .ok claims →
        Entitled assignments claims.subject claims.domain requiredRoles) ↔
      Entitled assignments claims.subject claims.domain requiredRoles ∨
        ((∀ role, ¬ HoldsRole assignments claims.subject claims.domain role) ∧
          ∀ role : Role, claims.subject ≠ role.text) := by
  rw [loadPolicy_seededRules, or_self] at stored
  rw [stored, casbinGuard_ok_iff ordinary some_required]
  constructor
  · intro sound
    by_cases entitled : Entitled assignments claims.subject claims.domain requiredRoles
    · exact Or.inl entitled
    · refine Or.inr ⟨?_, ?_⟩
      · exact fun role holds => entitled (sound (Or.inl ⟨role, holds⟩))
      · exact fun role same => entitled (sound (Or.inr ⟨role, same⟩))
  · rintro (entitled | ⟨none_held, not_role⟩) admitted
    · exact entitled
    · rcases admitted with ⟨role, holds⟩ | ⟨role, same⟩
      · exact absurd holds (none_held role)
      · exact absurd same (not_role role)

/-- The token of `bob` in tenant 10. -/
def bobClaims : Claims := { sub := some "bob", tenantId := some "10" }

/-- A subject that holds only `user` passes the guard of the administrators. -/
theorem user_passes_admin_guard :
    ¬ ∀ (assignments : List Assignment) (requiredRoles : List String) (claims : Claims),
      isSuperuser "root" claims.subject = false → requiredRoles ≠ [] →
      casbinGuard "root" (casbinPolicy.assign assignments) requiredRoles claims = .ok claims →
      Entitled assignments claims.subject claims.domain requiredRoles := by
  intro sound
  have ordinary : isSuperuser "root" bobClaims.subject = false := by decide
  have holds : HoldsRole [{ username := "bob", role := .user, domain := "10" }] bobClaims.subject
      bobClaims.domain .user := ⟨_, List.mem_singleton_self _, rfl, by decide, rfl⟩
  obtain ⟨required, mem, held, ⟨assignment, assigned, -, -, rfl⟩, above⟩ :=
    sound _ ["admin"] bobClaims ordinary (by decide)
      ((casbinGuard_ok_iff ordinary (by decide)).mpr (Or.inl ⟨.user, holds⟩))
  obtain rfl := List.mem_singleton.mp mem
  obtain rfl := List.mem_singleton.mp assigned
  revert above
  decide

/-- A manager passes the guard of the managers, and is entitled to. -/
theorem role_guard_sound_manager :
    casbinGuard "root" (casbinPolicy.assign [{ username := "bob", role := .manager, domain := "10" }])
        ["manager", "admin"] bobClaims = .ok bobClaims ∧
      Entitled [{ username := "bob", role := .manager, domain := "10" }] "bob" "10"
        ["manager", "admin"] := by
  have holds : HoldsRole [{ username := "bob", role := .manager, domain := "10" }] "bob" "10"
      .manager := ⟨_, List.mem_singleton_self _, rfl, by decide, rfl⟩
  have admitted : casbinGuard "root"
      (casbinPolicy.assign [{ username := "bob", role := .manager, domain := "10" }])
      ["manager", "admin"] bobClaims = .ok bobClaims :=
    (casbinGuard_ok_iff (by decide) (by decide)).mpr (Or.inl ⟨.manager, holds⟩)
  refine ⟨admitted, (role_guard_sound_iff (Or.inl rfl) (by decide) (by decide)).mpr ?_ admitted⟩
  exact Or.inl ⟨"manager", List.mem_cons_self, .manager, holds, by decide⟩

end ApiObservatory.Security
