import QueryAudit.Binding.Outline
import QueryAudit.CommandLine.Places
import QueryAudit.Corpus.Load
import QueryAudit.Corpus.Outline
import QueryAudit.Depth.Walk
import QueryAudit.Json.Pairs
import QueryAudit.Json.Reader
import QueryAudit.Json.Writer
import QueryAudit.Main
import QueryAudit.Pattern.Reader
import QueryAudit.Proofs.Binding.Typing
import QueryAudit.Proofs.Corpus.Unfolding
import QueryAudit.Proofs.Depth.Agreement
import QueryAudit.Proofs.Depth.Entrances
import QueryAudit.Proofs.Depth.Inlining
import QueryAudit.Proofs.Rule.UnusedFields
import QueryAudit.Proofs.UsedFields.SpreadEdits
import QueryAudit.Proofs.UsedFields.Union
import QueryAudit.Schema.Load
import QueryAudit.Schema.Outline
import QueryAudit.Session.Run
import QueryAudit.Template.Reader
import QueryAudit.Proofs.Depth.Shadowed
import QueryAudit.Proofs.Rule.Shadowed
import QueryAudit.Proofs.Session.Trials
import QueryAudit.Proofs.Session.Accepted
import QueryAudit.Proofs.Corpus.Documents
import QueryAudit.Proofs.Depth.Locality
import QueryAudit.Proofs.Depth.Nesting
import QueryAudit.Proofs.Depth.Sources
import QueryAudit.Proofs.Depth.Erasure
import QueryAudit.Proofs.Depth.Partial
import QueryAudit.Proofs.Depth.Termination
import QueryAudit.Proofs.Binding.Contexts
import QueryAudit.Proofs.Corpus.Indexing
import QueryAudit.Proofs.Config.DepthOptions
import QueryAudit.Proofs.Config.RoundTrip
import QueryAudit.Proofs.Corpus.Loading
import QueryAudit.Proofs.Corpus.Meetings
import QueryAudit.Proofs.Depth.Locations
import QueryAudit.Proofs.UsedFields.Canonical
import QueryAudit.Proofs.CommandLine.Overrides
import QueryAudit.Proofs.Json.ReadBack
import QueryAudit.Proofs.Report.Decoded
import QueryAudit.Proofs.Report.Lines
