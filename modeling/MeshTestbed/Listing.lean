import MeshTestbed.Json.Decode
import MeshTestbed.Text.Blank
import MeshTestbed.Text.Lines
import MeshTestbed.Text.Search

namespace MeshTestbed

structure Container where
  image : String
  imageId : String
deriving DecidableEq

structure PodListing where
  pod : String
  containers : List Container
deriving DecidableEq

namespace Container

/-- What follows the last `@` of the image id. -/
def digest? (c : Container) : Option String :=
  (Text.afterLast '@' c.imageId.toList).map String.ofList

/-- An entry without an image is none; without a bar its id is empty. -/
def ofEntry? (entry : List Char) : Option Container :=
  let (image, id) := (Text.splitFirst ['|'] entry).getD (entry, [])
  if image.isEmpty then none else some ⟨String.ofList image, String.ofList id⟩

def toJson (c : Container) : Json :=
  .obj [("image", .str c.image), ("image_id", .str c.imageId)]

def ofJson? (v : Json) : Option Container := do
  let ms ← v.fields? ["image", "image_id"] []
  let image ← Json.required ms "image" Json.text?
  let imageId ← Json.required ms "image_id" Json.text?
  some ⟨image, imageId⟩

end Container

namespace PodListing

/-- A line without a pod name lists nothing. -/
def ofLine? (line : List Char) : Option PodListing :=
  let line := Text.trimEnd line
  let (pod, rest) := (Text.splitFirst ['\t'] line).getD (line, [])
  let pod := Text.trim pod
  if pod.isEmpty then none
  else some ⟨String.ofList pod, (Text.words rest).filterMap Container.ofEntry?⟩

def ofListing (raw : String) : List PodListing := (Text.lines raw.toList).filterMap ofLine?

def toJson (p : PodListing) : Json :=
  .obj [("pod", .str p.pod), ("containers", .arr (p.containers.map Container.toJson))]

def ofJson? (v : Json) : Option PodListing := do
  let ms ← v.fields? ["pod", "containers"] []
  let pod ← Json.required ms "pod" Json.text?
  let containers ← Json.required ms "containers" (Json.list? Container.ofJson?)
  some ⟨pod, containers⟩

end PodListing

/-- The trimmed lines that contain `filter`, blank ones left out. -/
def packagesOfListing (raw filter : String) : List String :=
  ((Text.lines raw.toList).map Text.trim).filterMap fun line =>
    if !line.isEmpty && Text.occurs filter.toList line then some (String.ofList line) else none

end MeshTestbed
