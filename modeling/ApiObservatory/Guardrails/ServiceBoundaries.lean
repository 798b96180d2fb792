import ApiObservatory.Foundation.Joined
import ApiObservatory.Foundation.Text
import Mathlib.Algebra.GroupWithZero.Nat

/-
The guardrail of the service boundaries (`scripts/ci/check_service_boundaries.py`).

The scanner maps the module of an absolute import to a service and drops the rest: relative imports
and the names of a `from` import. `scan_iff` says that it reports a file exactly when the file holds
an absolute import of a module of another service, and `boundary_iff` what that leaves out.
-/

namespace ApiObservatory.Guardrails

open Foundation

/-! ### Services -/

/-- The members of the workspace in the root `pyproject.toml`, as parts of a path. -/
def members : List (List String) :=
  [["services", "ingestor"], ["services", "dashboard"], ["services", "inference"],
    ["services", "mcp"]]

/-- `workspace_service_roots`. Paths are relative to the root of the repository. -/
def workspaceServiceRoots : List (String × List String) :=
  members.filterMap fun path =>
    if path.dropLast.getLast? = some "services" then path.getLast?.map fun name => (name, path)
    else none

def services : List String := workspaceServiceRoots.map Prod.fst

/-- `detect_service_owner`. -/
def detectServiceOwner (file : List String) : Option String :=
  (workspaceServiceRoots.find? fun root => root.2.isPrefixOf file).map Prod.fst

/-- The module is `name` or stands below it. -/
def isOrStartsWith (module name : String) : Bool :=
  decide (module = name) || (name ++ ".").toList.isPrefixOf module.toList

/-- `module_to_service`. -/
def moduleToService (module : String) : Option String :=
  if isOrStartsWith module "libs" then none
  else if module = "services" then none
  else
    match (splitAt '.' module)[1]? with
    | some part =>
        if "services.".toList.isPrefixOf module.toList && services.contains part then some part
        else services.find? (isOrStartsWith module)
    | none => services.find? (isOrStartsWith module)

/-! ### Syntax trees -/

/-- The name of a module in an import statement. -/
structure DottedName where
  parts : List String
  nonempty : parts ≠ []
  plain : ∀ part ∈ parts, '.' ∉ part.toList

def DottedName.text (name : DottedName) : String := joinWith '.' name.parts

/-- `import a.b.c [as x], ...`. -/
structure Import where
  lineno : Nat
  names : List DottedName

/-- `from module import names`, with the number of dots in front of the module. -/
structure ImportFrom where
  lineno : Nat
  module : Option DottedName
  names : List String
  level : Nat
  absolute : level = 0 → module.isSome = true

/-- A node of the syntax tree. Import statements have no statements below them. -/
inductive Node where
  | ofImport (statement : Import)
  | ofImportFrom (statement : ImportFrom)
  | other (children : List Node)

/-- `ast.iter_child_nodes`. -/
def Node.children : Node → List Node
  | .other children => children
  | _ => []

/-- `extract_import_modules`. -/
def extractImportModules : Node → List (Nat × String)
  | .ofImport statement => statement.names.map fun name => (statement.lineno, name.text)
  | .ofImportFrom statement =>
      if statement.level > 0 then []
      else
        match statement.module with
        | some module => [(statement.lineno, module.text)]
        | none => []
  | .other _ => []

theorem sum_sizeOf_le (nodes : List Node) : (nodes.map sizeOf).sum ≤ sizeOf nodes := by
  induction nodes with
  | nil => simp
  | cons node nodes ih =>
    simp only [List.map_cons, List.sum_cons, List.cons.sizeOf_spec]
    omega

theorem Node.sum_children_lt (node : Node) : (node.children.map sizeOf).sum < sizeOf node := by
  cases node with
  | ofImport => simp [Node.children]
  | ofImportFrom => simp [Node.children]
  | other children =>
    have := sum_sizeOf_le children
    simp only [Node.children, Node.other.sizeOf_spec]
    omega

/-- `ast.walk`, from the nodes that are still to do. -/
def walkFrom : List Node → List Node
  | [] => []
  | node :: todo => node :: walkFrom (todo ++ node.children)
termination_by todo => (todo.map sizeOf).sum
decreasing_by
  have := node.sum_children_lt
  simp only [List.map_append, List.sum_append, List.map_cons, List.sum_cons]
  omega

def walk (tree : Node) : List Node := walkFrom [tree]

/-! ### The scans -/

structure Violation where
  file : List String
  line : Nat
  code : String
  message : String

/-- `ast.parse` gives a tree, or a `SyntaxError` with its line and message. -/
abbrev Parsed := Except (Option Nat × String) Node

/-- The violation for a file that does not parse. -/
def syntaxError (file : List String) (error : Option Nat × String) : Violation where
  file
  line := match error.1 with
    | some 0 | none => 1
    | some line => line
  code := "SVC000"
  message := s!"Python syntax error: {error.2}"

/-- The loop over the modules that a tree imports. -/
def violationsOf (check : Nat → String → String → Option Violation) (tree : Node) :
    List Violation :=
  (walk tree).flatMap fun node => (extractImportModules node).filterMap fun entry =>
    (moduleToService entry.2).bind (check entry.1 entry.2)

def scanFile (file : List String) (parsed : Parsed) : List Violation :=
  match detectServiceOwner file with
  | none => []
  | some owner =>
      match parsed with
      | .error error => [syntaxError file error]
      | .ok tree => violationsOf (fun line module target =>
          if target ≠ owner then
            some { file, line, code := "SVC001",
                   message := s!"Cross-service import is forbidden: '{module}' " ++
                     s!"from service '{owner}' to '{target}'." }
          else none) tree

def scanLibsFile (file : List String) (parsed : Parsed) : List Violation :=
  match parsed with
  | .error error => [syntaxError file error]
  | .ok tree => violationsOf (fun line module target =>
      some { file, line, code := "SVC002",
             message := s!"libs must not import from services: '{module}' " ++
               s!"(target: '{target}')." }) tree

/-! ### What an import statement binds -/

/-- The module belongs to the tree of the service, under its path or under its own name. -/
def BelongsTo (service : String) (module : List String) : Prop :=
  service ∈ services ∧ (["services", service] <+: module ∨ [service] <+: module)

/-- The module a `from` import starts from: one dot is the package of the file, each further dot the
package around it. With more dots than packages the statement raises and binds nothing. -/
def ImportFrom.base (package : List String) (statement : ImportFrom) : Option (List String) :=
  let named := (statement.module.map DottedName.parts).getD []
  if statement.level = 0 then some named
  else if statement.level ≤ package.length then
    some (package.take (package.length + 1 - statement.level) ++ named)
  else none

/-- The node is an import statement that binds this module, or members of it, or a member that may
be this module. -/
def Node.Binds (package : List String) (module : List String) : Node → Prop
  | .ofImport statement => ∃ name ∈ statement.names, module = name.parts
  | .ofImportFrom statement => ∃ base ∈ statement.base package,
      module = base ∨ ∃ name ∈ statement.names, module = base ++ [name]
  | .other _ => False

/-- `node` stands in the tree, at any depth. -/
inductive Within (node : Node) : Node → Prop where
  | self : Within node node
  | child {child : Node} {children : List Node} :
      child ∈ children → Within node child → Within node (.other children)

/-- A node is an absolute import, and it names a module of such a service. -/
def Node.Names (foreign : String → Prop) : Node → Prop
  | .ofImport statement => ∃ name ∈ statement.names, ∃ service, foreign service ∧
      BelongsTo service name.parts
  | .ofImportFrom statement => statement.level = 0 ∧ ∃ module ∈ statement.module, ∃ service,
      foreign service ∧ BelongsTo service module.parts
  | .other _ => False

/-- A node is `from services import service`, or a relative import with as many dots as it takes to
come from the package of the file to `services`, and then the service. -/
def Node.Slips (package : List String) (foreign : String → Prop) : Node → Prop
  | .ofImportFrom statement => ∃ service ∈ services, foreign service ∧
      ((statement.level = 0 ∧ (∃ module ∈ statement.module, module.parts = ["services"]) ∧
          service ∈ statement.names) ∨
        (0 < statement.level ∧ statement.level = package.length ∧
          package.head? = some "services" ∧
          match statement.module with
          | some module => module.parts.head? = some service
          | none => service ∈ statement.names))
  | _ => False

/-- The tree holds such a node. -/
def Holds (p : Node → Prop) (tree : Node) : Prop := ∃ node, Within node tree ∧ p node

/-! ### The two namings of a module -/

theorem joinWith_singleton (separator : Char) (word : String) : joinWith separator [word] = word := by
  rw [← String.toList_inj, joinWith, String.toList_intercalate]
  simp

theorem toList_joinWith_cons (separator : Char) (word next : String) (rest : List String) :
    (joinWith separator (word :: next :: rest)).toList =
      word.toList ++ separator :: (joinWith separator (next :: rest)).toList := by
  simp [joinWith, String.toList_intercalate]

namespace DottedName

variable (name : DottedName) {word : String} (clean : '.' ∉ word.toList)

include clean

/-- A text that begins with a word and a dot is a name that begins with this word and goes on. -/
theorem isPrefix_iff :
    (word ++ ".").toList <+: name.text.toList ↔
      name.parts.head? = some word ∧ 2 ≤ name.parts.length := by
  obtain ⟨parts, nonempty, plain⟩ := name
  simp only [text, String.toList_append]
  match parts with
  | [] => exact absurd rfl nonempty
  | [part] =>
    rw [joinWith_singleton]
    refine iff_of_false (fun isPrefix => ?_) (by simp)
    have dot : '.' ∈ part.toList := isPrefix.subset (by simp)
    exact plain part List.mem_cons_self dot
  | part :: next :: rest =>
    have here : '.' ∉ part.toList := plain part List.mem_cons_self
    rw [toList_joinWith_cons]
    simp only [List.head?_cons, Option.some.injEq, List.length_cons]
    constructor
    · intro isPrefix
      have undotted : ∀ a ∈ word.toList, ¬ a = '.' := by
        rintro a isIn rfl
        exact clean isIn
      have undotted' : ∀ a ∈ part.toList, ¬ a = '.' := by
        rintro a isIn rfl
        exact here isIn
      have begins : ∀ later, BeginsWith (· = '.') ('.' :: later) := fun _ => rfl
      obtain ⟨same, -⟩ := word_eq_of_prefix undotted undotted' (begins _) (.inr (begins _)) isPrefix
      exact ⟨String.toList_inj.mp same.symm, by omega⟩
    · rintro ⟨rfl, -⟩
      rw [List.prefix_append_right_inj]
      exact List.cons_prefix_cons.mpr ⟨rfl, List.nil_prefix⟩

theorem text_eq_iff : name.text = word ↔ name.parts = [word] := by
  constructor
  · intro same
    have own : splitAt '.' (joinWith '.' [word]) = [word] :=
      splitAt_joinWith (by simp) (by simpa using clean)
    rw [joinWith_singleton, ← same, text, splitAt_joinWith name.nonempty name.plain] at own
    exact own.trans (by rw [← same, text])
  · intro same
    rw [text, same, joinWith_singleton]

theorem isOrStartsWith_iff :
    isOrStartsWith name.text word = true ↔ name.parts.head? = some word := by
  rw [isOrStartsWith, Bool.or_eq_true, decide_eq_true_eq, List.isPrefixOf_iff_prefix,
    name.text_eq_iff clean, name.isPrefix_iff clean]
  have nonempty := name.nonempty
  match name.parts with
  | [] => simp
  | [part] => simp
  | part :: next :: rest => simp

end DottedName

theorem mem_services {service : String} : service ∈ services ↔
    service = "ingestor" ∨ service = "dashboard" ∨ service = "inference" ∨ service = "mcp" := by
  simp [services, workspaceServiceRoots, members]

theorem services_clean {service : String} (mem : service ∈ services) : '.' ∉ service.toList := by
  rcases mem_services.mp mem with rfl | rfl | rfl | rfl <;> decide

/-- The loop over the services at the end of `module_to_service`. -/
theorem find_services (name : DottedName) {service : String} :
    services.find? (isOrStartsWith name.text) = some service ↔
      service ∈ services ∧ name.parts.head? = some service := by
  constructor
  · intro found
    have mem := List.mem_of_find?_eq_some found
    exact ⟨mem, (name.isOrStartsWith_iff (services_clean mem)).mp (List.find?_some found)⟩
  · rintro ⟨mem, head⟩
    have first := (name.isOrStartsWith_iff (services_clean mem)).mpr head
    cases found : services.find? (isOrStartsWith name.text) with
    | none => exact absurd first (List.find?_eq_none.mp found service mem)
    | some other =>
      have head' := (name.isOrStartsWith_iff (services_clean (List.mem_of_find?_eq_some found))).mp
        (List.find?_some found)
      exact head'.symm.trans head

theorem belongsTo_iff {service : String} {module : List String} :
    BelongsTo service module ↔ service ∈ services ∧
      (module.head? = some service ∨ module.head? = some "services" ∧ module[1]? = some service) := by
  match module with
  | [] => simp [BelongsTo]
  | [part] => simp [BelongsTo, eq_comm]
  | part :: next :: rest => simp [BelongsTo, List.cons_prefix_cons, eq_comm, or_comm]

/-- **`module_to_service` finds the service that the module belongs to.** -/
theorem moduleToService_iff (name : DottedName) (service : String) :
    moduleToService name.text = some service ↔ BelongsTo service name.parts := by
  have libs : isOrStartsWith name.text "libs" = true ↔ name.parts.head? = some "libs" :=
    name.isOrStartsWith_iff (by decide)
  have split : splitAt '.' name.text = name.parts := splitAt_joinWith name.nonempty name.plain
  have below : "services.".toList.isPrefixOf name.text.toList = true ↔
      name.parts.head? = some "services" ∧ 2 ≤ name.parts.length := by
    rw [List.isPrefixOf_iff_prefix]
    have dotted : ("services" ++ ".").toList <+: name.text.toList ↔
        name.parts.head? = some "services" ∧ 2 ≤ name.parts.length := name.isPrefix_iff (by decide)
    exact dotted
  have known : ∀ s ∈ services, s ≠ "libs" ∧ s ≠ "services" := by
    intro s mem
    rcases mem_services.mp mem with rfl | rfl | rfl | rfl <;> decide
  rw [belongsTo_iff, moduleToService, split]
  split
  · rename_i isLibs
    rw [libs.mp isLibs]
    simp only [reduceCtorEq, Option.some.injEq, false_iff]
    rintro ⟨mem, rfl | ⟨no, -⟩⟩
    · exact (known _ mem).1 rfl
    · exact absurd no (by decide)
  · split
    · rename_i itself
      rw [(name.text_eq_iff (by decide)).mp itself]
      simp only [reduceCtorEq, false_iff]
      rintro ⟨mem, head | ⟨-, no⟩⟩
      · exact (known _ mem).2 (Option.some.inj head).symm
      · cases no
    · split
      · rename_i part second
        have long : 2 ≤ name.parts.length := (List.getElem?_eq_some_iff.mp second).1
        have condition : ("services.".toList.isPrefixOf name.text.toList && services.contains part)
            = true ↔ name.parts.head? = some "services" ∧ part ∈ services := by
          rw [Bool.and_eq_true, below, List.contains_iff_mem]
          exact ⟨fun both => ⟨both.1.1, both.2⟩, fun both => ⟨⟨both.1, long⟩, both.2⟩⟩
        rw [second, Option.some.injEq]
        split
        · rename_i holds
          obtain ⟨head, mem⟩ := condition.mp holds
          rw [Option.some.injEq]
          constructor
          · rintro rfl
            exact ⟨mem, .inr ⟨head, rfl⟩⟩
          · rintro ⟨mem', head' | ⟨-, same⟩⟩
            · exact absurd (Option.some.inj (head'.symm.trans head)) (known _ mem').2
            · exact same
        · rename_i fails
          rw [find_services]
          constructor
          · rintro ⟨mem, head⟩
            exact ⟨mem, .inl head⟩
          · rintro ⟨mem, head | ⟨head, rfl⟩⟩
            · exact ⟨mem, head⟩
            · exact absurd (condition.mpr ⟨head, mem⟩) fails
      · rename_i second
        rw [find_services, second]
        simp

/-! ### What the scan reports -/

theorem within_iff {node tree : Node} :
    Within node tree ↔ node = tree ∨ ∃ child ∈ tree.children, Within node child := by
  constructor
  · rintro (_ | ⟨mem, within⟩)
    · exact .inl rfl
    · exact .inr ⟨_, mem, within⟩
  · rintro (rfl | ⟨child, mem, within⟩)
    · exact .self
    · cases tree with
      | ofImport => cases mem
      | ofImportFrom => cases mem
      | other children => exact .child mem within

/-- The walk visits the nodes of the trees that are to do, at any depth. -/
theorem mem_walkFrom {node : Node} {todo : List Node} :
    node ∈ walkFrom todo ↔ ∃ tree ∈ todo, Within node tree := by
  induction todo using walkFrom.induct with
  | case1 => simp [walkFrom]
  | case2 tree todo ih =>
    rw [walkFrom, List.mem_cons, ih]
    have here : Within node tree ↔ node = tree ∨ ∃ child ∈ tree.children, Within node child :=
      within_iff
    simp only [List.mem_append, List.exists_mem_cons_iff, here]
    constructor
    · rintro (rfl | ⟨found, mem | mem, within⟩)
      · exact .inl (.inl rfl)
      · exact .inr ⟨found, mem, within⟩
      · exact .inl (.inr ⟨found, mem, within⟩)
    · rintro ((rfl | ⟨found, mem, within⟩) | ⟨found, mem, within⟩)
      · exact .inl rfl
      · exact .inr ⟨found, .inr mem, within⟩
      · exact .inr ⟨found, .inl mem, within⟩

theorem mem_walk {node tree : Node} : node ∈ walk tree ↔ Within node tree := by
  rw [walk, mem_walkFrom]
  simp

/-- The modules of a node that the scan looks at, by the service they belong to. -/
theorem exists_extracted_iff {foreign : String → Prop} {node : Node} :
    (∃ entry ∈ extractImportModules node, ∃ service, moduleToService entry.2 = some service ∧
      foreign service) ↔ node.Names foreign := by
  cases node with
  | other => simp [extractImportModules, Node.Names]
  | ofImport statement =>
    simp [extractImportModules, Node.Names, moduleToService_iff, and_comm]
  | ofImportFrom statement =>
    obtain ⟨lineno, module, names, level, absolute⟩ := statement
    cases module <;> cases level <;>
      simp [extractImportModules, Node.Names, moduleToService_iff, and_comm]

theorem violationsOf_ne_nil_iff {check : Nat → String → String → Option Violation}
    {foreign : String → Prop} {tree : Node}
    (reports : ∀ line module service, (check line module service).isSome = true ↔ foreign service) :
    violationsOf check tree ≠ [] ↔ Holds (Node.Names foreign) tree := by
  have found : violationsOf check tree ≠ [] ↔ ∃ violation, violation ∈ violationsOf check tree :=
    ⟨List.exists_mem_of_ne_nil _, fun ⟨_, mem⟩ => List.ne_nil_of_mem mem⟩
  rw [found]
  simp only [violationsOf, List.mem_flatMap, mem_walk, List.mem_filterMap, Option.bind_eq_some_iff]
  constructor
  · rintro ⟨violation, node, within, entry, mem, service, owned, reported⟩
    have isForeign := (reports entry.1 entry.2 service).mp (by rw [reported]; rfl)
    exact ⟨node, within, exists_extracted_iff.mp ⟨entry, mem, service, owned, isForeign⟩⟩
  · rintro ⟨node, within, named⟩
    obtain ⟨entry, mem, service, owned, isForeign⟩ := exists_extracted_iff.mpr named
    obtain ⟨violation, reported⟩ :=
      Option.isSome_iff_exists.mp ((reports entry.1 entry.2 service).mpr isForeign)
    exact ⟨violation, node, within, entry, mem, service, owned, reported⟩

/-! ### What an import statement reaches -/

/-- Where a file stands: its package is none of a service it must not import, nor below a package
with the name of a service. -/
structure Home (package : List String) (foreign : String → Prop) : Prop where
  nonempty : package ≠ []
  outside : ∀ service ∈ services, package.head? ≠ some service
  own : ∀ service, foreign service → ¬ ["services", service] <+: package

section Reaches

variable {package : List String} {foreign : String → Prop}

/-- A module that is reached with `level` dots. -/
theorem Home.belongsTo_iff (home : Home package foreign) {service : String}
    (isForeign : foreign service) {level : Nat} (positive : 0 < level)
    (bound : level ≤ package.length) (rest : List String) :
    BelongsTo service (package.take (package.length + 1 - level) ++ rest) ↔
      service ∈ services ∧ level = package.length ∧ package.head? = some "services" ∧
        rest.head? = some service := by
  rw [Guardrails.belongsTo_iff]
  have outside := home.outside service
  have own := home.own service isForeign
  match package, home.nonempty with
  | first :: others, _ =>
    rw [List.length_cons] at bound ⊢
    by_cases last : level = others.length + 1
    · -- Only `services` itself is left of the package.
      have one : others.length + 1 + 1 - level = 1 := by omega
      rw [one]
      simp only [List.take_succ_cons, List.take_zero, List.cons_append, List.nil_append,
        List.getElem?_cons_succ, List.head?_eq_getElem?, last, true_and]
      constructor
      · rintro ⟨mem, head | both⟩
        · exact absurd head (outside mem)
        · exact ⟨mem, both⟩
      · rintro ⟨mem, both⟩
        exact ⟨mem, .inr both⟩
    · match others with
      | [] => simp only [List.length_nil] at bound last; omega
      | second :: others =>
        rw [List.length_cons] at bound last ⊢
        obtain ⟨k, two⟩ : ∃ k, others.length + 1 + 1 + 1 - level = k + 2 :=
          ⟨others.length + 1 - level, by omega⟩
        rw [two]
        simp only [List.take_succ_cons, List.cons_append, List.head?_cons,
          List.getElem?_cons_succ, List.getElem?_cons_zero, last, false_and, and_false, iff_false]
        rintro ⟨mem, head | ⟨head, next⟩⟩
        · exact outside mem head
        · obtain rfl := Option.some.inj head
          obtain rfl := Option.some.inj next
          exact own ⟨others, rfl⟩

/-- A member of a module belongs to a service with the module, or is the service of `services`. -/
theorem belongsTo_append_iff {service name : String} {module : List String} (nonempty : module ≠ []) :
    BelongsTo service (module ++ [name]) ↔
      BelongsTo service module ∨
        service ∈ services ∧ module = ["services"] ∧ name = service := by
  rw [belongsTo_iff, belongsTo_iff]
  match module with
  | [] => exact absurd rfl nonempty
  | [part] =>
    simp only [List.cons_append, List.nil_append, List.head?_cons, Option.some.injEq,
      List.getElem?_cons_succ, List.getElem?_cons_zero, List.getElem?_nil, reduceCtorEq, and_false,
      or_false, List.cons.injEq, and_true]
    tauto
  | part :: next :: rest => simp

/-- The node binds a module or a member of a service it must not import. -/
def Node.Reaches (package : List String) (foreign : String → Prop) (node : Node) : Prop :=
  ∃ module, node.Binds package module ∧ ∃ service, foreign service ∧ BelongsTo service module

theorem absolute_reaches_iff {statement : ImportFrom} (absolute : statement.level = 0) :
    (Node.ofImportFrom statement).Reaches package foreign ↔
      (Node.ofImportFrom statement).Names foreign ∨
        (Node.ofImportFrom statement).Slips package foreign := by
  obtain ⟨module, named⟩ := Option.isSome_iff_exists.mp (statement.absolute absolute)
  have base : statement.base package = some module.parts := by
    simp [ImportFrom.base, absolute, named]
  constructor
  · rintro ⟨_, ⟨found, isBase, bound⟩, service, isForeign, belongs⟩
    obtain rfl : module.parts = found := Option.some.inj (base.symm.trans isBase)
    rcases bound with rfl | ⟨name, mem, rfl⟩
    · exact .inl ⟨absolute, module, named, service, isForeign, belongs⟩
    · rcases (belongsTo_append_iff module.nonempty).mp belongs with belongs | ⟨known, top, rfl⟩
      · exact .inl ⟨absolute, module, named, service, isForeign, belongs⟩
      · exact .inr ⟨name, known, isForeign, .inl ⟨absolute, ⟨module, named, top⟩, mem⟩⟩
  · rintro (⟨-, found, isModule, service, isForeign, belongs⟩ |
      ⟨service, known, isForeign, ⟨-, ⟨found, isModule, top⟩, mem⟩ | ⟨positive, -⟩⟩)
    · obtain rfl : module = found := Option.some.inj (named.symm.trans isModule)
      exact ⟨module.parts, ⟨_, base, .inl rfl⟩, service, isForeign, belongs⟩
    · obtain rfl : module = found := Option.some.inj (named.symm.trans isModule)
      exact ⟨module.parts ++ [service], ⟨_, base, .inr ⟨service, mem, rfl⟩⟩, service, isForeign,
        (belongsTo_append_iff module.nonempty).mpr (.inr ⟨known, top, rfl⟩)⟩
    · omega

theorem Home.relative_reaches_iff (home : Home package foreign) {statement : ImportFrom}
    (relative : 0 < statement.level) :
    (Node.ofImportFrom statement).Reaches package foreign ↔
      (Node.ofImportFrom statement).Slips package foreign := by
  have notAbsolute : statement.level ≠ 0 := by omega
  by_cases bound : statement.level ≤ package.length
  · have belongs := fun service (isForeign : foreign service) =>
      home.belongsTo_iff isForeign relative bound
    have base : statement.base package = some (package.take (package.length + 1 - statement.level) ++
        (statement.module.map DottedName.parts).getD []) := by
      simp [ImportFrom.base, notAbsolute, bound]
    cases named : statement.module with
    | none =>
      rw [named, Option.map_none, Option.getD_none, List.append_nil] at base
      simp only [Node.Reaches, Node.Binds, Node.Slips, named, base, Option.mem_def,
        Option.some.injEq, exists_eq_left', notAbsolute, false_and, false_or]
      constructor
      · rintro ⟨_, rfl | ⟨name, mem, rfl⟩, service, isForeign, reached⟩
        · have none := (belongs service isForeign []).mp (by rwa [List.append_nil])
          cases none.2.2.2
        · obtain ⟨known, same, top, first⟩ := (belongs service isForeign [name]).mp reached
          obtain rfl := Option.some.inj first
          exact ⟨name, known, isForeign, relative, same, top, mem⟩
      · rintro ⟨service, known, isForeign, -, same, top, mem⟩
        exact ⟨_, .inr ⟨service, mem, rfl⟩, service, isForeign,
          (belongs service isForeign [service]).mpr ⟨known, same, top, rfl⟩⟩
    | some module =>
      rw [named, Option.map_some, Option.getD_some] at base
      simp only [Node.Reaches, Node.Binds, Node.Slips, named, base, Option.mem_def,
        Option.some.injEq, exists_eq_left', notAbsolute, false_and, false_or]
      have head : ∀ name, (module.parts ++ [name]).head? = module.parts.head? := fun name =>
        List.head?_append_of_ne_nil _ module.nonempty
      constructor
      · rintro ⟨_, rfl | ⟨name, mem, rfl⟩, service, isForeign, reached⟩
        · obtain ⟨known, same, top, first⟩ := (belongs service isForeign module.parts).mp reached
          exact ⟨service, known, isForeign, relative, same, top, first⟩
        · rw [List.append_assoc] at reached
          obtain ⟨known, same, top, first⟩ :=
            (belongs service isForeign (module.parts ++ [name])).mp reached
          exact ⟨service, known, isForeign, relative, same, top, (head name).symm.trans first⟩
      · rintro ⟨service, known, isForeign, -, same, top, first⟩
        exact ⟨_, .inl rfl, service, isForeign,
          (belongs service isForeign module.parts).mpr ⟨known, same, top, first⟩⟩
  · have base : statement.base package = none := by simp [ImportFrom.base, notAbsolute, bound]
    constructor
    · rintro ⟨_, ⟨found, isBase, -⟩, -⟩
      cases base.symm.trans isBase
    · rintro ⟨service, -, -, ⟨zero, -⟩ | ⟨-, same, -⟩⟩ <;> omega

/-- **What the statement binds of another service is named by it, or slips through.** -/
theorem Home.reaches_iff (home : Home package foreign) (node : Node) :
    node.Reaches package foreign ↔ node.Names foreign ∨ node.Slips package foreign := by
  cases node with
  | other => simp [Node.Reaches, Node.Binds, Node.Names, Node.Slips]
  | ofImport statement =>
    simp only [Node.Reaches, Node.Binds, Node.Names, Node.Slips, or_false]
    constructor
    · rintro ⟨_, ⟨name, mem, rfl⟩, reached⟩
      exact ⟨name, mem, reached⟩
    · rintro ⟨name, mem, reached⟩
      exact ⟨_, ⟨name, mem, rfl⟩, reached⟩
  | ofImportFrom statement =>
    rcases Nat.eq_zero_or_pos statement.level with absolute | relative
    · exact absolute_reaches_iff absolute
    · have unnamed : ¬ (Node.ofImportFrom statement).Names foreign := fun named => by
        have := named.1
        omega
      rw [home.relative_reaches_iff relative, or_iff_right unnamed]

/-- A scan that reports what is named has no hole iff nothing slips through alone. -/
theorem Home.no_hole_iff (home : Home package foreign) {violations : List Violation} {tree : Node}
    (scan : violations ≠ [] ↔ Holds (Node.Names foreign) tree) :
    (violations ≠ [] → Holds (Node.Reaches package foreign) tree) ∧
      ((violations ≠ [] ↔ Holds (Node.Reaches package foreign) tree) ↔
        (Holds (Node.Slips package foreign) tree → Holds (Node.Names foreign) tree)) := by
  have split : Holds (Node.Reaches package foreign) tree ↔
      Holds (Node.Names foreign) tree ∨ Holds (Node.Slips package foreign) tree := by
    simp only [Holds, home.reaches_iff, and_or_left, exists_or]
  rw [scan, split]
  tauto

end Reaches

/-! ### The files of a service, and of the shared libraries -/

/-- A Python file below the root of a service. -/
structure ServiceFile where
  owner : String
  isService : owner ∈ services
  directories : List String
  name : String

namespace ServiceFile

variable (file : ServiceFile)

def package : List String := "services" :: file.owner :: file.directories

def path : List String := file.package ++ [file.name]

/-- What a service must not import. -/
def foreign (service : String) : Prop := service ≠ file.owner

theorem home : Home file.package file.foreign where
  nonempty := by simp [package]
  outside := by
    intro service mem same
    obtain rfl := Option.some.inj same
    exact absurd mem (by decide)
  own := by
    intro service isForeign isPrefix
    obtain ⟨-, isPrefix⟩ := List.cons_prefix_cons.mp isPrefix
    exact isForeign (List.cons_prefix_cons.mp isPrefix).1

theorem detectServiceOwner_path : detectServiceOwner file.path = some file.owner := by
  obtain ⟨owner, isService, directories, name⟩ := file
  rcases mem_services.mp isService with rfl | rfl | rfl | rfl <;>
    simp [detectServiceOwner, workspaceServiceRoots, members, path, package]

theorem scan_iff (tree : Node) :
    scanFile file.path (.ok tree) ≠ [] ↔ Holds (Node.Names file.foreign) tree := by
  rw [scanFile, file.detectServiceOwner_path]
  refine violationsOf_ne_nil_iff fun line module service => ?_
  by_cases same : service = file.owner <;> simp [same, foreign]

end ServiceFile

/-- A Python file below `libs`. -/
structure LibsFile where
  directories : List String
  name : String

namespace LibsFile

variable (file : LibsFile)

def package : List String := "libs" :: file.directories

def path : List String := file.package ++ [file.name]

/-- What a shared library must not import. -/
def foreign (_ : String) : Prop := True

theorem home : Home file.package foreign where
  nonempty := by simp [package]
  outside := by
    intro service mem same
    obtain rfl := Option.some.inj same
    exact absurd mem (by decide)
  own := by
    intro service _ isPrefix
    exact absurd (List.cons_prefix_cons.mp isPrefix).1 (by decide)

theorem scan_iff (tree : Node) :
    scanLibsFile file.path (.ok tree) ≠ [] ↔ Holds (Node.Names foreign) tree := by
  rw [scanLibsFile]
  exact violationsOf_ne_nil_iff fun line module service => by simp [foreign]

end LibsFile

/-- **The guardrail reports no file without a crossing import. It reports every file with one iff no
file lets a member of `services` or a relative import of another service through that has no absolute
one of such a module beside it.** -/
theorem boundary_iff (tree : Node) :
    (∀ file : ServiceFile,
      (scanFile file.path (.ok tree) ≠ [] →
        Holds (Node.Reaches file.package file.foreign) tree) ∧
      ((scanFile file.path (.ok tree) ≠ [] ↔
          Holds (Node.Reaches file.package file.foreign) tree) ↔
        (Holds (Node.Slips file.package file.foreign) tree →
          Holds (Node.Names file.foreign) tree))) ∧
    ∀ file : LibsFile,
      (scanLibsFile file.path (.ok tree) ≠ [] →
        Holds (Node.Reaches file.package LibsFile.foreign) tree) ∧
      ((scanLibsFile file.path (.ok tree) ≠ [] ↔
          Holds (Node.Reaches file.package LibsFile.foreign) tree) ↔
        (Holds (Node.Slips file.package LibsFile.foreign) tree →
          Holds (Node.Names LibsFile.foreign) tree)) :=
  ⟨fun file => file.home.no_hole_iff (file.scan_iff tree),
    fun file => file.home.no_hole_iff (file.scan_iff tree)⟩

/-- `from services import mcp`. -/
def member : ImportFrom where
  lineno := 1
  module := some ⟨["services"], by simp, by decide⟩
  names := ["mcp"]
  level := 0
  absolute := fun _ => rfl

/-- The ingestor imports the module of another service, and the scan reports nothing. -/
theorem member_unseen : ∃ file : ServiceFile,
    scanFile file.path (.ok (.other [.ofImportFrom member])) = [] ∧
      Holds (Node.Reaches file.package file.foreign) (.other [.ofImportFrom member]) := by
  let file : ServiceFile := ⟨"ingestor", by decide, [], "main.py"⟩
  have within : Within (.ofImportFrom member) (.other [.ofImportFrom member]) :=
    .child List.mem_cons_self .self
  have slips : (Node.ofImportFrom member).Slips file.package file.foreign :=
    ⟨"mcp", by decide, by simp [file, ServiceFile.foreign], .inl ⟨rfl, ⟨_, rfl, rfl⟩, List.mem_cons_self⟩⟩
  refine ⟨file, ?_, _, within, (file.home.reaches_iff _).mpr (.inr slips)⟩
  refine not_not.mp fun reported => ?_
  obtain ⟨node, within, named⟩ := (file.scan_iff _).mp reported
  rcases within_iff.mp within with rfl | ⟨child, mem, within⟩
  · exact named
  · obtain rfl := List.mem_singleton.mp mem
    rcases within_iff.mp within with rfl | ⟨_, none, -⟩
    · obtain ⟨entry, mem, service, target, -⟩ := exists_extracted_iff.mpr named
      obtain rfl : entry = (1, "services") := by
        simpa [extractImportModules, member, DottedName.text, joinWith_singleton] using mem
      cases target
    · cases none

end ApiObservatory.Guardrails
