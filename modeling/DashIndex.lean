import DashIndex.Main
import DashIndex.Query.Statement
import DashIndex.Service.Session
import DashIndex.Proofs.Store.Insert
import DashIndex.Proofs.Store.Reachable
import DashIndex.Proofs.Text.Like
import DashIndex.Proofs.Text.NoCase
import DashIndex.Proofs.Store.History
import DashIndex.Proofs.Search.Answer
import DashIndex.Proofs.Search.Order
import DashIndex.Proofs.Search.Paging
import DashIndex.Proofs.Search.Membership
import DashIndex.Proofs.Sort.Registry
import DashIndex.Proofs.Store.Opening
import DashIndex.Proofs.Store.Version
import DashIndex.Proofs.Service.Session
import DashIndex.Proofs.Query.Statement
import DashIndex.Proofs.Dashboard.Decoding
import DashIndex.Proofs.CommandLine.Scan
import DashIndex.Proofs.CommandLine.RoundTrip
import DashIndex.Proofs.Files.Path
import DashIndex.Proofs.Files.Tree
import DashIndex.Proofs.Files.Place
import DashIndex.Proofs.Files.Settling
import DashIndex.Proofs.Files.Opening
import DashIndex.Proofs.CommandLine.Runs
import DashIndex.Proofs.Search.TwoRuns
import DashIndex.Proofs.Search.Folder
import DashIndex.Proofs.Text.Case
import DashIndex.Proofs.Search.Case
import DashIndex.Proofs.Store.Numbering
import DashIndex.Proofs.Service.Providers
import DashIndex.Proofs.Query.Outcome
import DashIndex.Proofs.Query.Pattern
import DashIndex.Proofs.Dashboard.Faults
import DashIndex.Proofs.Query.Placeholders
import DashIndex.Proofs.Query.Reading
import DashIndex.Proofs.Search.Content
import DashIndex.Proofs.Search.Equivalent
import DashIndex.Proofs.CommandLine.Report
import DashIndex.Proofs.Config.Decoding
import DashIndex.Proofs.Files.Sparing
import DashIndex.Proofs.CommandLine.Failures
