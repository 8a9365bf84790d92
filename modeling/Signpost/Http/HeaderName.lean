import Signpost.Octets

/-!
# Header names

A header name is one of the standard names or a custom text.  Reading a name
takes tokens only and puts them in lower case, so names that differ in letter
case read as one name.  A custom name that did not come from reading may be any
text at all; it is never equal to a standard one.
-/

namespace Signpost

inductive StandardHeader where
  | accept
  | acceptEncoding
  | acceptLanguage
  | accessControlAllowOrigin
  | age
  | allow
  | authorization
  | cacheControl
  | connection
  | contentDisposition
  | contentEncoding
  | contentLanguage
  | contentLength
  | contentSecurityPolicy
  | contentType
  | cookie
  | crossOriginEmbedderPolicy
  | crossOriginOpenerPolicy
  | crossOriginResourcePolicy
  | date
  | etag
  | expires
  | host
  | ifModifiedSince
  | ifNoneMatch
  | lastModified
  | location
  | origin
  | permissionsPolicy
  | pragma
  | range
  | referer
  | referrerPolicy
  | retryAfter
  | server
  | setCookie
  | strictTransportSecurity
  | transferEncoding
  | upgrade
  | userAgent
  | vary
  | wwwAuthenticate
  | xContentTypeOptions
  | xFrameOptions
  | xRequestId
  | xXssProtection
  deriving DecidableEq, Repr

namespace StandardHeader

def all : List StandardHeader :=
  [.accept, .acceptEncoding, .acceptLanguage, .accessControlAllowOrigin, .age, .allow,
   .authorization, .cacheControl, .connection, .contentDisposition, .contentEncoding,
   .contentLanguage, .contentLength, .contentSecurityPolicy, .contentType, .cookie,
   .crossOriginEmbedderPolicy, .crossOriginOpenerPolicy, .crossOriginResourcePolicy, .date,
   .etag, .expires, .host, .ifModifiedSince, .ifNoneMatch, .lastModified, .location, .origin,
   .permissionsPolicy, .pragma, .range, .referer, .referrerPolicy, .retryAfter, .server,
   .setCookie, .strictTransportSecurity, .transferEncoding, .upgrade, .userAgent, .vary,
   .wwwAuthenticate, .xContentTypeOptions, .xFrameOptions, .xRequestId, .xXssProtection]

/-- The name as it stands on the wire. -/
def text : StandardHeader → String
  | accept => "accept"
  | acceptEncoding => "accept-encoding"
  | acceptLanguage => "accept-language"
  | accessControlAllowOrigin => "access-control-allow-origin"
  | age => "age"
  | allow => "allow"
  | authorization => "authorization"
  | cacheControl => "cache-control"
  | connection => "connection"
  | contentDisposition => "content-disposition"
  | contentEncoding => "content-encoding"
  | contentLanguage => "content-language"
  | contentLength => "content-length"
  | contentSecurityPolicy => "content-security-policy"
  | contentType => "content-type"
  | cookie => "cookie"
  | crossOriginEmbedderPolicy => "cross-origin-embedder-policy"
  | crossOriginOpenerPolicy => "cross-origin-opener-policy"
  | crossOriginResourcePolicy => "cross-origin-resource-policy"
  | date => "date"
  | etag => "etag"
  | expires => "expires"
  | host => "host"
  | ifModifiedSince => "if-modified-since"
  | ifNoneMatch => "if-none-match"
  | lastModified => "last-modified"
  | location => "location"
  | origin => "origin"
  | permissionsPolicy => "permissions-policy"
  | pragma => "pragma"
  | range => "range"
  | referer => "referer"
  | referrerPolicy => "referrer-policy"
  | retryAfter => "retry-after"
  | server => "server"
  | setCookie => "set-cookie"
  | strictTransportSecurity => "strict-transport-security"
  | transferEncoding => "transfer-encoding"
  | upgrade => "upgrade"
  | userAgent => "user-agent"
  | vary => "vary"
  | wwwAuthenticate => "www-authenticate"
  | xContentTypeOptions => "x-content-type-options"
  | xFrameOptions => "x-frame-options"
  | xRequestId => "x-request-id"
  | xXssProtection => "x-xss-protection"

def ofText? (name : String) : Option StandardHeader := all.find? fun h => h.text == name

end StandardHeader

inductive HeaderName where
  | standard (name : StandardHeader)
  | custom (name : String)
  deriving DecidableEq, Repr

namespace HeaderName

/-- The name as it stands on the wire. -/
def text : HeaderName → String
  | standard name => name.text
  | custom name => name

/-- Read a token in any letter case. -/
def ofText? (name : String) : Option HeaderName :=
  if (Octets.ofText name).isTokenText then
    let lower := asciiLower name
    match StandardHeader.ofText? lower with
    | some known => some (standard known)
    | none => some (custom lower)
  else none

def isCustom : HeaderName → Bool
  | custom _ => true
  | standard _ => false

/-- The standard names of the lines that a response writes of its own accord. -/
def isFraming : HeaderName → Bool
  | standard .contentLength | standard .transferEncoding | standard .date => true
  | _ => false

end HeaderName

namespace HeaderValue

/-- A value may hold any character that keeps it within its line. -/
def isValid (value : String) : Bool :=
  value.toList.all fun c => !(c == '\r' || c == '\n' || c == '\x00')

end HeaderValue

end Signpost
