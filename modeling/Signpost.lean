import Signpost.Middleware.RequestId
import Signpost.Middleware.Security
import Signpost.Proofs.Connection.Counting
import Signpost.Proofs.Connection.Delivery
import Signpost.Proofs.Connection.Offers
import Signpost.Proofs.Connection.Reads
import Signpost.Proofs.Connection.Script
import Signpost.Proofs.Connection.Stops
import Signpost.Proofs.Fallible
import Signpost.Proofs.Http.Attributes
import Signpost.Proofs.Http.Date
import Signpost.Proofs.Http.HeaderName
import Signpost.Proofs.Http.Inline
import Signpost.Proofs.Key.Folding
import Signpost.Proofs.Key.Selection
import Signpost.Proofs.Middleware.Gating
import Signpost.Proofs.Middleware.Overrides
import Signpost.Proofs.Octets
import Signpost.Proofs.Path.Instances
import Signpost.Proofs.Path.NormalForm
import Signpost.Proofs.PerfectHash.Exhaustive
import Signpost.Proofs.PerfectHash.Lookup
import Signpost.Proofs.PerfectHash.Perfect
import Signpost.Proofs.PerfectHash.Search
import Signpost.Proofs.PerfectHash.Widening
import Signpost.Proofs.Request.Bare
import Signpost.Proofs.Request.Cookies
import Signpost.Proofs.Request.Escapes
import Signpost.Proofs.Request.FormEncoding
import Signpost.Proofs.Request.Grammar
import Signpost.Proofs.Request.HeadLength
import Signpost.Proofs.Request.Line
import Signpost.Proofs.Request.Located
import Signpost.Proofs.Request.Offsets
import Signpost.Proofs.Response.Agreement
import Signpost.Proofs.Response.Buffered
import Signpost.Proofs.Response.Chunked
import Signpost.Proofs.Response.Decoded
import Signpost.Proofs.Response.Guarded
import Signpost.Proofs.Response.HeadLines
import Signpost.Proofs.Response.HeaderNames
import Signpost.Proofs.Response.InMemory
import Signpost.Proofs.Response.Wire
import Signpost.Proofs.Router.Addition
import Signpost.Proofs.Router.Census
import Signpost.Proofs.Router.Collisions
import Signpost.Proofs.Router.Compiled
import Signpost.Proofs.Router.Covers
import Signpost.Proofs.Router.EditedTemplates
import Signpost.Proofs.Router.Failures
import Signpost.Proofs.Router.HeadAnswers
import Signpost.Proofs.Router.Identity
import Signpost.Proofs.Router.LetterCase
import Signpost.Proofs.Router.MiddlewareOrder
import Signpost.Proofs.Router.OneResponse
import Signpost.Proofs.Router.Origin
import Signpost.Proofs.Router.Placement
import Signpost.Proofs.Router.Prefilter
import Signpost.Proofs.Router.Registration
import Signpost.Proofs.Router.Resolution
import Signpost.Proofs.Router.Search
import Signpost.Proofs.Router.Versions
import Signpost.Proofs.Server.Continued
import Signpost.Proofs.Server.DeclaredLength
import Signpost.Proofs.Server.Reading
import Signpost.Proofs.Store.Answers
import Signpost.Proofs.Store.Coherence
import Signpost.Proofs.Store.Duplicates
import Signpost.Proofs.Store.Dynamic
import Signpost.Proofs.Store.History
import Signpost.Proofs.Store.Override
import Signpost.Proofs.Store.OwnPath
import Signpost.Proofs.Text.Lines
import Signpost.Proofs.Text.Marks
import Signpost.Proofs.Text.Numeral
import Signpost.Proofs.Text.Pieces
import Signpost.Proofs.Text.Trim
import Signpost.Proofs.Text.Utf8
import Signpost.Server.DateRefresher
import Signpost.Server.Session
import Signpost.Server.Tracker
