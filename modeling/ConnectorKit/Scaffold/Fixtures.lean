import ConnectorKit.Disk.Search
import ConnectorKit.Scaffold.Basic
import ConnectorKit.Yaml.Scalar

/-!
The test fixtures of a resource, which are the seventh phase of a migration: one manifest to create
it and one to update it. Neither is written where one of them is there.
-/

set_option autoImplicit false
set_option relaxedAutoImplicit false

namespace ConnectorKit.Scaffold

structure FixturesRequest where
  resource : String
  service : String
  version : String
  deriving DecidableEq, Repr

/-- The manifest of a resource. -/
def manifest (names : Names) (version : String) (description : Option String) : String :=
  Yaml.member 0 "apiVersion" (names.service ++ ".cnrm.cloud.google.com/" ++ version) ++
  Yaml.member 0 "kind" names.kind ++
  Yaml.opening 0 "metadata" ++
  Yaml.member 2 "name" (names.lower ++ "-$\x7buniqueId\x7d") ++
  Yaml.opening 0 "spec" ++
  Yaml.opening 2 "projectRef" ++
  Yaml.member 4 "external" "$\x7bprojectId\x7d" ++
  Yaml.member 2 "location" "us-central1" ++
  (description.map (Yaml.member 2 "description")).getD ""

namespace FixturesRequest

/-- The two manifests, that for creation first. -/
def skeletons (r : FixturesRequest) (names : Names) : List Skeleton :=
  [⟨Layout.fixtureFile names.service r.version names.lower Layout.createFixture,
    manifest names r.version none⟩,
   ⟨Layout.fixtureFile names.service r.version names.lower Layout.updateFixture,
    manifest names r.version (some "Updated description")⟩]

def nextSteps : List String :=
  ["Fill in the required spec fields in create.yaml",
   "Change at least one mutable field in update.yaml",
   "Record golden output with WRITE_GOLDEN_OUTPUT=1 E2E_GCP_TARGET=mock"]

/-- The names of the request, where every part of its paths is a component. -/
def names (r : FixturesRequest) : Except Failure Names := do
  let names ← Names.of r.resource r.service
  requireSegment "version" r.version
  return names

end FixturesRequest

/-- Creates the fixtures of a resource, and confirms it. -/
def fixtures (root : String) (r : FixturesRequest) : Action Disk String := do
  let names ← Action.ofExcept r.names
  let skeletons := r.skeletons names
  let d ← get
  match skeletons.find? fun s => d.stands root s.path with
  | some s => throw (.collision s.path)
  | none =>
    createAll root skeletons
    return confirmation "test fixtures"
      (Layout.fixturesOf names.service r.version names.lower) FixturesRequest.nextSteps

end ConnectorKit.Scaffold
