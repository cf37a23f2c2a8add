import MeshTestbed.Listing
import MeshTestbed.Plan.Basic
import MeshTestbed.Run.Session

/-!
The inventory of an install: the images of every pod in the namespaces it touched, and the packages
of the audited pods. What cannot be listed is recorded with its error and stops nothing.
-/

namespace MeshTestbed

structure NamespaceListing where
  ns : String
  pods : List PodListing
  error : Option String := none
deriving DecidableEq

structure PackageListing where
  ns : String
  pod : String
  packages : List String
  error : Option String := none
deriving DecidableEq

structure Inventory where
  namespaces : List NamespaceListing := []
  packages : List PackageListing := []
deriving DecidableEq

namespace NamespaceListing

def toJson (n : NamespaceListing) : Json :=
  .obj <|
    [("namespace", .str n.ns), ("pods", .arr (n.pods.map PodListing.toJson))] ++
      Json.optional "error" .str n.error

def ofJson? (v : Json) : Option NamespaceListing := do
  let ms ← v.fields? ["namespace", "pods", "error"] []
  let ns ← Json.required ms "namespace" Json.text?
  let pods ← Json.required ms "pods" (Json.list? PodListing.ofJson?)
  let error ← Json.nullable ms "error" Json.text?
  some ⟨ns, pods, error⟩

def containerLines (c : Container) : List String :=
  ["    image  " ++ c.image, "    digest " ++ c.digest?.getD c.imageId]

def lines (n : NamespaceListing) : List String :=
  ("namespace " ++ n.ns) ::
    match n.error with
    | some error => ["  (unavailable: " ++ error ++ ")"]
    | none =>
      (if n.pods.isEmpty then ["  (no pods)"] else []) ++
        n.pods.flatMap fun p => ("  pod " ++ p.pod) :: p.containers.flatMap containerLines

end NamespaceListing

namespace PackageListing

def toJson (p : PackageListing) : Json :=
  .obj <|
    [("namespace", .str p.ns), ("pod", .str p.pod), ("packages", .strs p.packages)] ++
      Json.optional "error" .str p.error

def ofJson? (v : Json) : Option PackageListing := do
  let ms ← v.fields? ["namespace", "pod", "packages", "error"] []
  let ns ← Json.required ms "namespace" Json.text?
  let pod ← Json.required ms "pod" Json.text?
  let packages ← Json.required ms "packages" Json.texts?
  let error ← Json.nullable ms "error" Json.text?
  some ⟨ns, pod, packages, error⟩

def lines (p : PackageListing) : List String :=
  ("packages " ++ p.ns ++ "/" ++ p.pod) ::
    match p.error with
    | some error => ["  (unavailable: " ++ error ++ ")"]
    | none => p.packages.map ("  " ++ ·)

end PackageListing

namespace Inventory

def toJson (r : Inventory) : Json :=
  .obj <|
    ("namespaces", .arr (r.namespaces.map NamespaceListing.toJson)) ::
      Json.member (!r.packages.isEmpty) "packages" (.arr (r.packages.map PackageListing.toJson))

def ofJson? (v : Json) : Option Inventory := do
  let ms ← v.fields? ["namespaces"] ["packages"]
  let namespaces ← Json.required ms "namespaces" (Json.list? NamespaceListing.ofJson?)
  let packages ← Json.defaulted ms "packages" [] (Json.list? PackageListing.ofJson?)
  some ⟨namespaces, packages⟩

def lines (r : Inventory) : List String :=
  r.namespaces.flatMap NamespaceListing.lines ++ r.packages.flatMap PackageListing.lines

end Inventory

/-- What a listing command printed, or why there is no listing. -/
def listing : Except CommandFailure Completion → Except String String
  | .error e => .error e.message
  | .ok o => if o.isOk then .ok o.stdout else .error (Text.trimmed o.stderr)

namespace RunM

variable {σ : Type}

def imagesOf (runner : Runner σ) (tool : ClusterTool) (ns : String) : RunM σ NamespaceListing := do
  match listing (← RunM.call runner ⟨tool.showImages ns, none⟩) with
  | .ok raw => return ⟨ns, PodListing.ofListing raw, none⟩
  | .error e => return ⟨ns, [], some e⟩

/-- The packages in a pod whose names contain `filter`. -/
def packagesOf (runner : Runner σ) (tool : ClusterTool) (filter ns pod : String) :
    RunM σ PackageListing := do
  match listing (← RunM.call runner ⟨tool.showPackages ns pod, none⟩) with
  | .ok raw => return ⟨ns, pod, packagesOfListing raw filter, none⟩
  | .error e => return ⟨ns, pod, [], some e⟩

def listImages (runner : Runner σ) (tool : ClusterTool) (namespaces : List String) :
    RunM σ (List NamespaceListing) :=
  namespaces.mapM (imagesOf runner tool)

def auditPackages (runner : Runner σ) (tool : ClusterTool) (images : NamespaceListing)
    (audit : PackageAudit) : RunM σ (List PackageListing) :=
  (images.pods.filter fun p => Text.contains p.pod audit.podFilter).mapM fun p =>
    packagesOf runner tool audit.packageFilter images.ns p.pod

end RunM

end MeshTestbed
