import CitationFusion.Text.Utf8
import CitationFusion.Text.Parts
import CitationFusion.Text.Unprintable
import CitationFusion.Decimal.Layout
import CitationFusion.Clock
import CitationFusion.StringSet.Script
import CitationFusion.Direction
import CitationFusion.Json.Record
import CitationFusion.Response.Write
import CitationFusion.Report
import CitationFusion.Took
import CitationFusion.Postgres.Tables
import CitationFusion.Stopwatch
import CitationFusion.Cache.Sweeper
import CitationFusion.Resolve
import CitationFusion.Memory
import CitationFusion.Http.Route
import CitationFusion.Postgres.Failure
import CitationFusion.IndexService
import CitationFusion.Toml.Document
import CitationFusion.Config.Read
import CitationFusion.Url.Parse
import CitationFusion.Wire
import CitationFusion.Backends
import CitationFusion.Network
import CitationFusion.Start
import CitationFusion.Main
import CitationFusion.Proofs.Utf8
import CitationFusion.Proofs.Json.Written
import CitationFusion.Proofs.Json.Grammar
import CitationFusion.Proofs.Took
import CitationFusion.Proofs.Plan
import CitationFusion.Proofs.Fusion
import CitationFusion.Proofs.Integrity
import CitationFusion.Proofs.Interleaving
import CitationFusion.Proofs.Transparency
import CitationFusion.Proofs.RoundTrip
import CitationFusion.Proofs.FirstFailure
import CitationFusion.Proofs.Retention
import CitationFusion.Proofs.Answer
import CitationFusion.Proofs.Acceptance
import CitationFusion.Proofs.Lifetime
import CitationFusion.Proofs.Deeds
import CitationFusion.Proofs.Keeping
import CitationFusion.Proofs.Identifiers
import CitationFusion.Proofs.Percent
import CitationFusion.Proofs.Redirect
import CitationFusion.Proofs.Connecting
import CitationFusion.Proofs.Listing
import CitationFusion.Proofs.Calls
import CitationFusion.Proofs.Deadline
import CitationFusion.Proofs.Eviction
import CitationFusion.Proofs.Fetcher
import CitationFusion.Proofs.LastPatch
import CitationFusion.Proofs.Url
import CitationFusion.Proofs.IndexService
import CitationFusion.Proofs.Intact
import CitationFusion.Proofs.Config
import CitationFusion.Proofs.Expiry
import CitationFusion.Proofs.Stopwatch
import CitationFusion.Proofs.Journal
import CitationFusion.Proofs.Rightmost
import CitationFusion.Proofs.Schema
