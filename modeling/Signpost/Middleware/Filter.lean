import Signpost.Http.MediaType
import Signpost.Http.Method
import Signpost.Http.Status

/-!
# Route filters

A filter picks routes by version, method, media type and status.  An empty list
admits every value; a list of media types admits no route without one.
-/

namespace Signpost

structure RouteFilter where
  versions : List Version := []
  methods : List Method := []
  mediaTypes : List MediaType := []
  statuses : List Status := []
  deriving DecidableEq

namespace RouteFilter

/-- Whether a list admits a value. -/
def admits {α : Type} [BEq α] (listed : List α) (value : α) : Bool :=
  listed.isEmpty || listed.contains value

def matchesRoute (f : RouteFilter) (version : Version) (method : Method)
    (contentType : Option ContentType) (status : Status) : Bool :=
  admits f.versions version && admits f.methods method &&
    (f.mediaTypes.isEmpty ||
      (match contentType with
        | some c => f.mediaTypes.contains c.mediaType
        | none => false)) &&
    admits f.statuses status

end RouteFilter

end Signpost
