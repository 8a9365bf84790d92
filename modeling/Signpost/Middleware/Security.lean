import Signpost.Middleware.Rule

/-!
# Security headers

A security policy names the protections that a browser is asked for.  It comes
down to a list of headers, put on templates by a static rule.
-/

namespace Signpost

inductive FrameOptions where
  | deny
  | sameOrigin
  | unrestricted
  deriving DecidableEq, Repr

def FrameOptions.value? : FrameOptions → Option String
  | deny => some "DENY"
  | sameOrigin => some "SAMEORIGIN"
  | unrestricted => none

/-- For how long, and for which hosts, a browser must use a secure transport. -/
structure TransportSecurity where
  maxAge : Nat := 31536000
  includeSubdomains : Bool := true
  preload : Bool := false
  deriving DecidableEq, Repr

def TransportSecurity.value (t : TransportSecurity) : String :=
  "max-age=" ++ Numeral.decimal t.maxAge ++
    (if t.includeSubdomains then "; includeSubDomains" else "") ++
    (if t.preload then "; preload" else "")

structure SecurityPolicy where
  contentSecurity : Option String := none
  frameOptions : FrameOptions := .deny
  noSniff : Bool := true
  xssProtection : Bool := false
  transport : Option TransportSecurity := none
  referrer : Option String := some "strict-origin-when-cross-origin"
  permissions : Option String := none
  crossOriginOpener : Option String := none
  crossOriginEmbedder : Option String := none
  crossOriginResource : Option String := none
  deriving DecidableEq

namespace SecurityPolicy

/-- For sites that are shown in a browser. -/
def strict : SecurityPolicy where
  contentSecurity := some "default-src 'self'; object-src 'none'; frame-ancestors 'none'"
  transport := some { preload := true }
  permissions := some "geolocation=(), microphone=(), camera=()"
  crossOriginOpener := some "same-origin"
  crossOriginEmbedder := some "require-corp"
  crossOriginResource := some "same-origin"

/-- For interfaces that no browser shows. -/
def api : SecurityPolicy where
  frameOptions := .unrestricted
  transport := some {}
  referrer := some "no-referrer"

/-- The headers of a policy, in the order they are set. -/
def headers (p : SecurityPolicy) : List (HeaderName × String) :=
  let entry (name : StandardHeader) (value? : Option String) :=
    value?.toList.map fun value => (HeaderName.standard name, value)
  entry .contentSecurityPolicy p.contentSecurity ++
    entry .xFrameOptions p.frameOptions.value? ++
    entry .xContentTypeOptions (if p.noSniff then some "nosniff" else none) ++
    entry .xXssProtection (if p.xssProtection then some "1; mode=block" else none) ++
    entry .strictTransportSecurity (p.transport.map TransportSecurity.value) ++
    entry .referrerPolicy p.referrer ++
    entry .permissionsPolicy p.permissions ++
    entry .crossOriginOpenerPolicy p.crossOriginOpener ++
    entry .crossOriginEmbedderPolicy p.crossOriginEmbedder ++
    entry .crossOriginResourcePolicy p.crossOriginResource

/-- The rule that sets the headers of a policy. -/
def rule (p : SecurityPolicy) (filter : RouteFilter) : StaticRule :=
  HeadOverride.rule { filter, headers := p.headers }

end SecurityPolicy

end Signpost
