import ConnectorKit.Scaffold.Basic

/-!
The skeleton of a types file, which is the second phase of a migration.
-/

set_option autoImplicit false
set_option relaxedAutoImplicit false

namespace ConnectorKit.Scaffold

open Text.Template (slot)

structure TypesRequest where
  resource : String
  service : String
  version : String
  protoPackage : String
  protoMessage : String
  description : Option String
  deriving DecidableEq, Repr

def typesTemplate : String :=
  Text.Line.ofRows
    ["",
     "package " ++ slot "version",
     "",
     "import (",
     "\t\"github.com/GoogleCloudPlatform/k8s-config-connector/pkg/apis/k8s/v1alpha1\"",
     "\tmetav1 \"k8s.io/apimachinery/pkg/apis/meta/v1\"",
     ")",
     "",
     "var " ++ slot "kind" ++ "GVK = GroupVersion.WithKind(\"" ++ slot "kind" ++ "\")",
     "",
     "// " ++ slot "resource" ++ "Spec defines the desired state of " ++ slot "resource" ++ ".",
     "// " ++ slot "description",
     "// +kcc:proto=" ++ slot "proto_package" ++ "." ++ slot "proto_message",
     "type " ++ slot "resource" ++ "Spec struct \x7b",
     "\t// Add fields with their +kcc:proto= annotations, for example:",
     "\t// // +kcc:proto=" ++ slot "proto_package" ++ "." ++ slot "proto_message" ++
       ".description",
     "\t// Description *string `json:\"description,omitempty\"`",
     "",
     "\t// Immutable. The Project that this resource belongs to.",
     "\t// +required",
     "\tProjectRef *v1alpha1.ProjectRef `json:\"projectRef\"`",
     "",
     "\t// Immutable. The location for the resource.",
     "\t// +required",
     "\tLocation string `json:\"location\"`",
     "",
     "\t// The " ++ slot "resource" ++ " name. If not given, the metadata.name will be used.",
     "\t// +optional",
     "\tResourceID *string `json:\"resourceID,omitempty\"`",
     "\x7d",
     "",
     "// " ++ slot "resource" ++ "Status defines the config connector machine state of " ++
       slot "resource" ++ ".",
     "type " ++ slot "resource" ++ "Status struct \x7b",
     "\t// Conditions represent the latest available observations of the object's " ++
       "current state.",
     "\tConditions []v1alpha1.Condition `json:\"conditions,omitempty\"`",
     "",
     "\t// ObservedGeneration is the generation of the resource that was most recently " ++
       "observed by the Config Connector controller.",
     "\tObservedGeneration *int64 `json:\"observedGeneration,omitempty\"`",
     "",
     "\t// A unique specifier for the " ++ slot "resource" ++ " resource in GCP.",
     "\tExternalRef *string `json:\"externalRef,omitempty\"`",
     "",
     "\t// ObservedState is the state of the resource as most recently observed in GCP.",
     "\tObservedState *" ++ slot "resource" ++
       "ObservedState `json:\"observedState,omitempty\"`",
     "\x7d",
     "",
     "// " ++ slot "resource" ++ "ObservedState is the state of the " ++ slot "resource" ++
       " resource as most recently observed in GCP.",
     "// +kcc:proto=" ++ slot "proto_package" ++ "." ++ slot "proto_message",
     "type " ++ slot "resource" ++ "ObservedState struct \x7b",
     "\x7d",
     "",
     "// +genclient",
     "// +k8s:deepcopy-gen:interfaces=k8s.io/apimachinery/pkg/runtime.Object",
     "// +kubebuilder:resource:categories=gcp",
     "// +kubebuilder:subresource:status",
     "// +kubebuilder:metadata:labels=\"cnrm.cloud.google.com/managed-by-kcc=true\";\"cnrm.cloud.google.com/system=true\"",
     "// +kubebuilder:printcolumn:name=\"Age\",JSONPath=\".metadata.creationTimestamp\",type=\"date\"",
     "// +kubebuilder:printcolumn:name=\"Ready\",JSONPath=\".status.conditions[?(@.type=='Ready')].status\",type=\"string\",description=\"When 'True', the most recent reconcile of the resource succeeded\"",
     "// +kubebuilder:printcolumn:name=\"Status\",JSONPath=\".status.conditions[?(@.type=='Ready')].reason\",type=\"string\",description=\"The reason for the value in 'Ready'\"",
     "// +kubebuilder:printcolumn:name=\"Status " ++
       "Age\",JSONPath=\".status.conditions[?(@.type=='Ready')].lastTransitionTime\",type=\"date\",description=\"The last transition time for the value in 'Status'\"",
     "",
     "// " ++ slot "kind" ++ " is the Schema for the " ++ slot "service" ++ " " ++
       slot "resource" ++ " API",
     "// +k8s:openapi-gen=true",
     "type " ++ slot "kind" ++ " struct \x7b",
     "\tmetav1.TypeMeta   `json:\",inline\"`",
     "\tmetav1.ObjectMeta `json:\"metadata,omitempty\"`",
     "",
     "\t// +required",
     "\tSpec   " ++ slot "resource" ++ "Spec   `json:\"spec,omitempty\"`",
     "\tStatus " ++ slot "resource" ++ "Status `json:\"status,omitempty\"`",
     "\x7d",
     "",
     "// +k8s:deepcopy-gen:interfaces=k8s.io/apimachinery/pkg/runtime.Object",
     "// " ++ slot "kind" ++ "List contains a list of " ++ slot "kind",
     "type " ++ slot "kind" ++ "List struct \x7b",
     "\tmetav1.TypeMeta `json:\",inline\"`",
     "\tmetav1.ListMeta `json:\"metadata,omitempty\"`",
     "\tItems           []" ++ slot "kind" ++ " `json:\"items\"`",
     "\x7d",
     "",
     "func init() \x7b",
     "\tSchemeBuilder.Register(&" ++ slot "kind" ++ "\x7b\x7d, &" ++ slot "kind" ++
       "List\x7b\x7d)",
     "\x7d",
     ""]

namespace TypesRequest

/-- The given description, or one made of the name where it is blank. -/
def describe (r : TypesRequest) : String :=
  (r.description.bind Text.Blank.filled?).getD (r.resource ++ " resource")

def bindings (r : TypesRequest) (names : Names) : List (String × String) :=
  [("version", r.version),
   ("service", names.service),
   ("kind", names.kind),
   ("resource", names.resource),
   ("description", r.describe),
   ("proto_package", r.protoPackage),
   ("proto_message", r.protoMessage)]

def skeleton (r : TypesRequest) (year : Nat) : Except Failure Skeleton := do
  let names ← Names.of r.resource r.service
  requireSegment "version" r.version
  return {
    path := Layout.typesFile names.service r.version names.lower
    content := licenseHeader year ++ Text.Template.render typesTemplate (r.bindings names) }

def nextSteps (r : TypesRequest) : List String :=
  ["Fill in the Spec fields with +kcc:proto= annotations",
   "Add nested types if needed",
   "Run: " ++ Layout.mapperScript ++ " " ++ r.resource,
   "Use kcc_scaffold_identity to create the identity handler"]

end TypesRequest

/-- Creates the types file of a resource, and confirms it. -/
def types (root : String) (year : Nat) (r : TypesRequest) : Action Disk String :=
  createOne root "types file" r.nextSteps (r.skeleton year)

end ConnectorKit.Scaffold
