import ConnectorKit.Layout.Artifact
import ConnectorKit.Proofs.Disk.Path

/-!
The files of a resource as routes from the root of the repository. No file of one resource stands on
the way to a file of another kind, or to one of a resource with another name.
-/

set_option autoImplicit false
set_option relaxedAutoImplicit false

namespace ConnectorKit.Layout

open Disk.Path (Plain ofNames)

theorem apisDirectory_eq : apisDirectory = ofNames ["apis"] := by
  decide

theorem legacyDirectory_eq : legacyDirectory = ofNames ["pkg", "clients", "generated"] := by
  decide

theorem protoDirectory_eq : protoDirectory = ofNames ["mockgcp", "third_party", "googleapis"] := by
  decide

/-- The files that a migration makes. -/
inductive Artifact where
  | types
  | identity
  | mapper
  | controller
  | mock
  | create
  | update
  deriving DecidableEq, Repr

namespace Artifact

/-- The phase of a migration that makes the file. -/
def phase : Artifact → Nat
  | types => 2
  | identity => 3
  | mapper => 4
  | controller => 5
  | mock => 6
  | create | update => 7

variable (service version lower : String)

def path : Artifact → String
  | types => typesFile service version lower
  | identity => identityFile service version lower
  | mapper => mapperFile service
  | controller => controllerFile service lower
  | mock => mockFile service lower
  | create => fixtureFile service version lower createFixture
  | update => fixtureFile service version lower updateFixture

/-- The directories that lead to the file. -/
def directories : Artifact → List String
  | types | identity => ["apis", service, version]
  | mapper | controller => ["pkg", "controller", "direct", service]
  | mock => ["mockgcp", "mock" ++ service]
  | create | update =>
    ["pkg", "test", "resourcefixture", "testdata", "basic", service, version, lower]

/-- The name of the file in the last of them. -/
def name : Artifact → String
  | types => lower ++ "_types.go"
  | identity => lower ++ "_identity.go"
  | mapper => "mapper.generated.go"
  | controller => lower ++ "_controller.go"
  | mock => lower ++ ".go"
  | create => "create.yaml"
  | update => "update.yaml"

def names (a : Artifact) : List String :=
  a.directories service version lower ++ [a.name lower]

/-- How many parts the path of the file has. -/
def depth : Artifact → Nat
  | types | identity => 4
  | mapper | controller => 5
  | mock => 3
  | create | update => 9

theorem length_names (a : Artifact) : (a.names service version lower).length = a.depth := by
  cases a <;> rfl

theorem path_eq (a : Artifact) :
    a.path service version lower = ofNames (a.names service version lower) := by
  refine String.toList_inj.1 ?_
  cases a <;>
    simp [path, names, directories, name, ofNames, typesFile, identityFile, mapperFile,
      controllerFile, mockFile, fixtureFile, fixturesOf, apisDirectory, controllerDirectory,
      mockDirectory, fixturesDirectory, createFixture, updateFixture]

variable {service version lower}

private theorem plain_ending {finish : String} (long : 2 < finish.toList.length)
    (unslashed : '/' ∉ finish.toList) (own : '/' ∉ lower.toList) : Plain (lower ++ finish) := by
  refine Disk.Path.plain_of_length ?_ ?_
  · rw [String.toList_append, List.length_append]
    omega
  · simp [own, unslashed]

theorem plain_types (serviced : Plain service) (versioned : Plain version)
    (own : '/' ∉ lower.toList) : ∀ n ∈ types.names service version lower, Plain n := by
  have literal : Plain "apis" := by decide
  have ending : Plain (lower ++ "_types.go") := plain_ending (by decide) (by decide) own
  simp [names, directories, name, literal, serviced, versioned, ending]

theorem plain_names (serviced : Plain service) (versioned : Plain version) (own : Plain lower)
    (a : Artifact) : ∀ n ∈ a.names service version lower, Plain n := by
  have mocked : Plain ("mock" ++ service) :=
    Disk.Path.plain_of_length (by simp) (by simp [serviced.unslashed])
  have ending {finish : String} (long : 2 < finish.toList.length)
      (unslashed : '/' ∉ finish.toList) := plain_ending long unslashed own.unslashed
  have literals : ∀ n ∈ ["apis", "pkg", "controller", "direct", "mockgcp", "test",
      "resourcefixture", "testdata", "basic", "mapper.generated.go", "create.yaml",
      "update.yaml"], Plain n := by decide
  simp only [List.forall_mem_cons] at literals
  cases a <;>
    simp [names, directories, name, literals, serviced, versioned, own, mocked, ending]

theorem split_path {a : Artifact} (plain : ∀ n ∈ a.names service version lower, Plain n) :
    Text.Search.split '/' (a.path service version lower) = a.names service version lower := by
  rw [path_eq]
  exact Disk.Path.split_ofNames (by simp [names]) plain

/-- What stands on the way to a file of a resource, or at it, is the same file of a resource of the
same name; the mappers alone are shared. -/
theorem eq_of_prefix {a b : Artifact} {service' version' lower' : String}
    (h : a.names service' version' lower' <+: b.names service version lower) (own : b ≠ .mapper) :
    a = b ∧ lower' = lower := by
  -- The endings of two kinds of files differ, which shows when they are read from their ends.
  have apart {one other : String} (differ : one.toList.reverse ≠ other.toList.reverse) :
      one ≠ other := fun same => differ (same ▸ rfl)
  have types_identity : lower' ++ "_types.go" ≠ lower ++ "_identity.go" := apart (by simp)
  have identity_types : lower' ++ "_identity.go" ≠ lower ++ "_types.go" := apart (by simp)
  have mapper_controller : "mapper.generated.go" ≠ lower ++ "_controller.go" := apart (by simp)
  cases a <;> cases b <;> simp_all [names, directories, name, List.cons_prefix_cons]

theorem not_under_clients (a : Artifact) :
    ¬ ["pkg", "clients", "generated"] <+: a.names service version lower := by
  cases a <;> simp [names, directories, List.cons_prefix_cons]

theorem not_under_protos (a : Artifact) :
    ¬ ["mockgcp", "third_party", "googleapis"] <+: a.names service version lower := by
  have mocks : "third_party" ≠ "mock" ++ service := fun same => by
    simpa using congrArg (·.toList.head?) same
  cases a <;> simp [names, directories, List.cons_prefix_cons, mocks]

/-- The ways to files of two later phases part at once; those to controllers and fixtures have their
first directory in common. -/
theorem eq_pkg_of_prefix {a b : Artifact} {front : List String} (nonempty : front ≠ [])
    (later : a ≠ .types ∧ a ≠ .mapper) (later' : b ≠ .types ∧ b ≠ .mapper)
    (other : a.phase ≠ b.phase) (one : front <+: a.names service version lower)
    (two : front <+: b.names service version lower) : front = ["pkg"] := by
  obtain ⟨first, rest, rfl⟩ := List.exists_cons_of_ne_nil nonempty
  cases a <;> cases b <;> cases rest <;>
    simp_all [phase, names, directories, List.cons_prefix_cons]

end Artifact

end ConnectorKit.Layout
