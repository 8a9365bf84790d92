import Signpost.Middleware.Filter
import Signpost.Response.Template

/-!
# Static rules

A static rule edits templates when routes are compiled; it never sees a
request.  Rules are applied in order, and each is matched against the head as
the rules before it have left it.  The rules that come with the library
override parts of the head and leave the body alone.
-/

namespace Signpost

structure StaticRule where
  /-- Whether the rule is meant for a head of this version, content type and status that answers
  this method. -/
  handles : Version → Method → Option ContentType → Status → Bool
  edit : RouteTemplate → RouteTemplate

namespace StaticRule

def apply (rule : StaticRule) (method : Method) (t : RouteTemplate) : RouteTemplate :=
  if rule.handles t.head.version method t.head.contentType t.head.status then rule.edit t else t

/-- Apply rules in order to a template. -/
def applyAll (rules : List StaticRule) (method : Method) (t : RouteTemplate) : RouteTemplate :=
  rules.foldl (fun t rule => rule.apply method t) t

end StaticRule

/-- Fixed parts for the heads of all templates that a filter admits. -/
structure HeadOverride where
  filter : RouteFilter := {}
  status : Option Status := none
  contentType : Option ContentType := none
  /-- Headers that become the only ones of their names. -/
  headers : List (HeaderName × String) := []
  /-- Cookies that are added. -/
  cookies : List Cookie := []

namespace HeadOverride

/-- The head after the overrides. -/
def edit (o : HeadOverride) (head : ResponseHead) : ResponseHead :=
  let head := { head with
    status := o.status.getD head.status
    contentType := o.contentType <|> head.contentType }
  let head := o.headers.foldl (fun h (name, value) => h.set name value) head
  { head with cookies := head.cookies ++ o.cookies }

def rule (o : HeadOverride) : StaticRule where
  handles := o.filter.matchesRoute
  edit t := { t with head := o.edit t.head }

end HeadOverride

end Signpost
