/-
**The catalog of images.**

A version key stands for an image.  Three layers say which: the releases that the library knows, the
image that is under development, and the images of the configuration, each layer over the one
before.  An image of quorum comes with the arguments that its version needs.

Main definitions:

* `Testbed.Catalog` — images by version key;
* `Testbed.Catalog.ofConfig` — the three layers;
* `Testbed.Catalog.quorumOrEmpty`, `Testbed.Catalog.tesseraOrEmpty` — look-ups that answer an
  unknown key with the empty image.
-/

import Testbed.Config.Basic
import Testbed.Network.Overlay

set_option autoImplicit false

namespace Testbed

/-- An image of quorum with the arguments it needs. -/
structure QuorumImage where
  image : String
  overlay : Overlay
  deriving DecidableEq, Repr

/-- Images by version key. -/
structure Catalog where
  quorum : Dict QuorumImage
  tessera : Dict String
  deriving DecidableEq, Repr

namespace Catalog

/-- An image of the quorum repository. -/
def quorumImage (tag : String) : String := "quorumengineering/quorum:" ++ tag

/-- An image of the tessera repository. -/
def tesseraImage (tag : String) : String := "quorumengineering/tessera:" ++ tag

/-- The key of the image under development. -/
def developKey : String := "develop"

/-- The releases of quorum from before accounts were locked: they need no arguments. -/
def legacyQuorumReleases : List (String × String) := [("v2.5.0", "2.5.0")]

/-- The releases of quorum that are their own tags. -/
def quorumReleases : List String := ["latest", "21.1.0", "21.4.0", "21.10.0", "2.7.0"]

/-- The releases of tessera. -/
def tesseraReleases : List String := ["latest", "0.10.5", "21.1.0", "21.10.0"]

/-- The image under development: what the configuration names, without the space at its ends, or the
tag `develop` of the repository if it names none. -/
def developImage (target : Option String) (repository : String → String) : String :=
  match (target.map Text.trim).filter (· ≠ "") with
  | some image => image
  | none => repository developKey

/-- An image of quorum that needs accounts to be unlocked. -/
def unlocked (image : String) : QuorumImage := ⟨image, Overlay.insecureUnlock⟩

/-- The entries of quorum, later ones over earlier ones. -/
def quorumEntries (c : Config.Docker) : List (String × QuorumImage) :=
  (legacyQuorumReleases.map fun e => (e.1, ⟨quorumImage e.2, Overlay.empty⟩)) ++
  (quorumReleases.map fun key => (key, unlocked (quorumImage key))) ++
  [(developKey, unlocked (developImage c.targetQuorumImage quorumImage))] ++
  c.quorumImages.entries.map fun e => (e.1, unlocked e.2)

/-- The entries of tessera, later ones over earlier ones. -/
def tesseraEntries (c : Config.Docker) : List (String × String) :=
  (tesseraReleases.map fun key => (key, tesseraImage key)) ++
  [(developKey, developImage c.targetTesseraImage tesseraImage)] ++
  c.tesseraImages.entries

/-- The catalog of a configuration. -/
def ofConfig (c : Config.Docker) : Catalog :=
  ⟨Dict.ofList (quorumEntries c), Dict.ofList (tesseraEntries c)⟩

/-- The image and the arguments of a key, or the empty image and no arguments. -/
def quorumOrEmpty (c : Catalog) (key : Option String) : QuorumImage :=
  (key.bind c.quorum.get?).getD ⟨"", Overlay.empty⟩

/-- The image of a key, or the empty image. -/
def tesseraOrEmpty (c : Catalog) (key : Option String) : String :=
  (key.bind c.tessera.get?).getD ""

end Catalog

end Testbed
