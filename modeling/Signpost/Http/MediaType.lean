import Signpost.Octets
import Signpost.Text.Blank
import Signpost.Text.Split

/-!
# Media types and content types

A closed set of media types, each with the file extensions it is known by, and
the `content-type` value made of a media type and a character set.
-/

namespace Signpost

inductive MediaType where
  | plain
  | html
  | css
  | javascript
  | csv
  | eventStream
  | json
  | xml
  | pdf
  | wasm
  | octetStream
  | formUrlencoded
  | formData
  | png
  | jpeg
  | gif
  | svg
  | webp
  | icon
  | woff
  | woff2
  | ttf
  deriving DecidableEq, Repr

namespace MediaType

/-- The essence, `type/subtype`. -/
def text : MediaType → String
  | plain => "text/plain"
  | html => "text/html"
  | css => "text/css"
  | javascript => "text/javascript"
  | csv => "text/csv"
  | eventStream => "text/event-stream"
  | json => "application/json"
  | xml => "application/xml"
  | pdf => "application/pdf"
  | wasm => "application/wasm"
  | octetStream => "application/octet-stream"
  | formUrlencoded => "application/x-www-form-urlencoded"
  | formData => "multipart/form-data"
  | png => "image/png"
  | jpeg => "image/jpeg"
  | gif => "image/gif"
  | svg => "image/svg+xml"
  | webp => "image/webp"
  | icon => "image/x-icon"
  | woff => "font/woff"
  | woff2 => "font/woff2"
  | ttf => "font/ttf"

def extensions : MediaType → List String
  | plain => ["txt", "text"]
  | html => ["html", "htm"]
  | css => ["css"]
  | javascript => ["js", "mjs"]
  | csv => ["csv"]
  | eventStream => []
  | json => ["json"]
  | xml => ["xml"]
  | pdf => ["pdf"]
  | wasm => ["wasm"]
  | octetStream => ["bin"]
  | formUrlencoded => []
  | formData => []
  | png => ["png"]
  | jpeg => ["jpg", "jpeg"]
  | gif => ["gif"]
  | svg => ["svg"]
  | webp => ["webp"]
  | icon => ["ico"]
  | woff => ["woff"]
  | woff2 => ["woff2"]
  | ttf => ["ttf"]

def all : List MediaType :=
  [.plain, .html, .css, .javascript, .csv, .eventStream, .json, .xml, .pdf, .wasm,
   .octetStream, .formUrlencoded, .formData, .png, .jpeg, .gif, .svg, .webp, .icon, .woff,
   .woff2, .ttf]

/-- Read an essence in any letter case; parameters after a semicolon are left aside. -/
def ofText? (value : String) : Option MediaType :=
  let essence := Text.trim (String.ofList (upTo ';' value.toList))
  all.find? fun m => asciiEqFold essence m.text

/-- The media type of a file extension, in any letter case and without its dot. -/
def ofExtension? (extension : String) : Option MediaType :=
  all.find? fun m => m.extensions.contains (asciiLower extension)

/-- The `text` types and the three others that are texts. -/
def isText (m : MediaType) : Bool :=
  m.text.startsWith "text/" || m == json || m == xml || m == svg

end MediaType

inductive Charset where
  | utf8
  | usAscii
  | latin1
  deriving DecidableEq, Repr

def Charset.text : Charset → String
  | utf8 => "utf-8"
  | usAscii => "us-ascii"
  | latin1 => "iso-8859-1"

/-- The value of a `content-type` line. -/
structure ContentType where
  mediaType : MediaType
  charset : Option Charset := none
  deriving DecidableEq, Repr

def ContentType.text (c : ContentType) : String :=
  match c.charset with
  | some charset => c.mediaType.text ++ "; charset=" ++ charset.text
  | none => c.mediaType.text

end Signpost
