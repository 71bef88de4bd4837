import ConnectorKit.Disk.Write
import ConnectorKit.Layout.Artifact
import ConnectorKit.Text.Blank
import ConnectorKit.Text.Case
import ConnectorKit.Text.Line
import ConnectorKit.Text.Template

/-!
Skeletons of the files that a migration needs. Each is a template filled from the request, and is
only ever created: a file that is there already is left as it is.
-/

set_option autoImplicit false
set_option relaxedAutoImplicit false

namespace ConnectorKit.Scaffold

open Text.Template (slot)

/-- The names that resource and service give. -/
structure Names where
  resource : String
  lower : String
  service : String
  /-- The kind of the resource, with its service in front. -/
  kind : String
  deriving DecidableEq, Repr

/-- Refuses a blank value, and one that is no single component of a path. -/
def requireSegment (field value : String) : Except Failure Unit :=
  if Text.Blank.isBlankText value then .error (.blankArgument field)
  else if value.toList.contains '/' ∨ value.toList.contains '\\' ∨ value = "." ∨ value = ".." then
    .error (.notOneSegment field value)
  else .ok ()

def Names.of (resource service : String) : Except Failure Names := do
  requireSegment "resource" resource
  requireSegment "service" service
  return {
    resource := resource
    lower := Text.Case.lower resource
    service := service
    kind := Text.Case.capitalize service ++ resource }

/-- The head of a generated source file. -/
def licenseTemplate : String :=
  Text.Line.ofRows
    ["// Copyright " ++ slot "year" ++ " Google LLC",
     "//",
     "// Licensed under the Apache License, Version 2.0 (the \"License\");",
     "// you may not use this file except in compliance with the License.",
     "// You may obtain a copy of the License at",
     "//",
     "//      http://www.apache.org/licenses/LICENSE-2.0",
     "//",
     "// Unless required by applicable law or agreed to in writing, software",
     "// distributed under the License is distributed on an \"AS IS\" BASIS,",
     "// WITHOUT WARRANTIES OR CONDITIONS OF ANY KIND, either express or implied.",
     "// See the License for the specific language governing permissions and",
     "// limitations under the License.",
     ""]

def licenseHeader (year : Nat) : String :=
  Text.Template.render licenseTemplate [("year", toString year)]

/-- A file to be created. -/
structure Skeleton where
  path : String
  content : String
  deriving DecidableEq, Repr

/-- Creates the file; a collision tells its path from the repository. -/
def Skeleton.create (root : String) (s : Skeleton) : Action Disk Unit := fun d =>
  match Disk.writeNew (Disk.Path.join root s.path) s.content.toUTF8 d with
  | (.error (.collision _), d) => (.error (.collision s.path), d)
  | outcome => outcome

private def numbered (position : Nat) : List String → String
  | [] => ""
  | step :: steps =>
    "\n" ++ toString position ++ ". " ++ step ++ numbered (position + 1) steps

/-- What is said of a created file, and what to do next. -/
def confirmation (what path : String) (steps : List String) : String :=
  "Created " ++ what ++ ": " ++ path ++ "\n\nNext steps:" ++ numbered 1 steps

/-- Creates the one file that a request gives, unless the request is refused, and confirms it. -/
def createOne (root what : String) (steps : List String) (given : Except Failure Skeleton) :
    Action Disk String := do
  let s ← Action.ofExcept given
  s.create root
  return confirmation what s.path steps

/-- Creates files in order, up to the first that fails. -/
def createAll (root : String) (skeletons : List Skeleton) : Action Disk Unit :=
  skeletons.forM fun s => s.create root

end ConnectorKit.Scaffold
