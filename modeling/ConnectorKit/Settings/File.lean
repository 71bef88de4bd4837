import ConnectorKit.Disk.Basic
import ConnectorKit.Failure
import ConnectorKit.Json.Draft

/-!
The settings file. Its records are written as objects or as arrays in the order of the fields, and
every field may be missing. A file that is not read as such counts as empty.
-/

set_option autoImplicit false
set_option relaxedAutoImplicit false

namespace ConnectorKit.Settings

/-- What the file sets. -/
structure File where
  authorName : Option String := none
  authorEmail : Option String := none
  repository : Option String := none
  conventional : Option Bool := none
  deriving DecidableEq, Repr

namespace File

open Json (Draft)

/-- The member with the name, if there is one; two of them are an error. -/
def single? (name : String) (members : List (String × Draft)) : Option (Option Draft) :=
  match members.filter (·.1 = name) with
  | [] => some none
  | [(_, d)] => some (some d)
  | _ => none

/-- The fields of a record, in order; unknown members are passed over. -/
def fields? (names : List String) : Draft → Option (List (Option Draft))
  | .object members => do
    let members ← members.mapM fun (key, d) => key.map fun key => (key, d)
    names.mapM fun name => single? name members
  | .array items =>
    if items.length ≤ names.length then
      some (items.map some ++ List.replicate (names.length - items.length) none)
    else none
  | _ => none

def text? : Option Draft → Option (Option String)
  | none | some .null => some none
  | some (.string s) => s.map some
  | some _ => none

def truth? : Option Draft → Option (Option Bool)
  | none | some .null => some none
  | some (.bool b) => some (some b)
  | some _ => none

/-- Reads a record that may be missing, but not null. -/
def record? (names : List String) : Option Draft → Option (List (Option Draft))
  | none => some (names.map fun _ => none)
  | some d => fields? names d

def ofDraft? (d : Draft) : Option File := do
  match ← fields? ["git", "kcc_repo_path", "rules"] d with
  | [git, repository, rules] =>
    match ← record? ["author_name", "author_email"] git,
        ← record? ["require_conventional_commits"] rules with
    | [name, email], [conventional] =>
      return {
        authorName := ← text? name
        authorEmail := ← text? email
        repository := ← text? repository
        conventional := ← truth? conventional }
    | _, _ => none
  | _ => none

def ofText (text : String) : File :=
  ((Draft.read? text).bind ofDraft?).getD {}

/-- The file below a home directory; without a home there is none. -/
def load (d : Disk) (home : Option String) : File :=
  match home with
  | none => {}
  | some home =>
    match d.readText (Disk.Path.join home Failure.settingsFile) with
    | .ok text => ofText text
    | .error _ => {}

end File

end ConnectorKit.Settings
