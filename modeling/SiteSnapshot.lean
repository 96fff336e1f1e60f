import SiteSnapshot.Asset.Replace
import SiteSnapshot.Asset.Roots
import SiteSnapshot.Asset.Transform
import SiteSnapshot.Bundle.Basic
import SiteSnapshot.Bundle.Copy
import SiteSnapshot.Bundle.Memory
import SiteSnapshot.Catalog.Directory
import SiteSnapshot.Catalog.Entries
import SiteSnapshot.Catalog.Enumerate
import SiteSnapshot.Catalog.Manifest
import SiteSnapshot.Catalog.Plan
import SiteSnapshot.Catalog.Sorted
import SiteSnapshot.Catalog.Source
import SiteSnapshot.Cli.Command
import SiteSnapshot.Cli.Options
import SiteSnapshot.Cli.Run
import SiteSnapshot.Cli.Table
import SiteSnapshot.Crawl.Recording
import SiteSnapshot.Crawl.Render
import SiteSnapshot.Crawl.Response
import SiteSnapshot.Crawl.Site
import SiteSnapshot.Crawl.Status
import SiteSnapshot.Crawl.Wire
import SiteSnapshot.Export.Config
import SiteSnapshot.Export.Report
import SiteSnapshot.Export.Run
import SiteSnapshot.Export.Schedule
import SiteSnapshot.Failure
import SiteSnapshot.FileTree.Access
import SiteSnapshot.FileTree.Basic
import SiteSnapshot.FileTree.Resolve
import SiteSnapshot.Html.Arena
import SiteSnapshot.Html.Construction
import SiteSnapshot.Html.Element
import SiteSnapshot.Html.Entity
import SiteSnapshot.Html.Foreign
import SiteSnapshot.Html.Input
import SiteSnapshot.Html.Legacy
import SiteSnapshot.Html.Lexer
import SiteSnapshot.Html.Node
import SiteSnapshot.Html.Parse
import SiteSnapshot.Html.Rules
import SiteSnapshot.Html.Serialize
import SiteSnapshot.Html.Template
import SiteSnapshot.Html.Token
import SiteSnapshot.Json.Basic
import SiteSnapshot.Json.Document
import SiteSnapshot.Json.Read
import SiteSnapshot.Json.Write
import SiteSnapshot.Layout.FilePath
import SiteSnapshot.Layout.MapPath
import SiteSnapshot.Layout.Output
import SiteSnapshot.Layout.UrlPath
import SiteSnapshot.Main
import SiteSnapshot.Page.Link
import SiteSnapshot.Page.Policy
import SiteSnapshot.Page.Relocate
import SiteSnapshot.Page.Transform
import SiteSnapshot.Proofs.Asset.Characters
import SiteSnapshot.Proofs.Asset.Occurrences
import SiteSnapshot.Proofs.Asset.References
import SiteSnapshot.Proofs.Asset.Relocation
import SiteSnapshot.Proofs.Asset.Substitution
import SiteSnapshot.Proofs.Bundle.Building
import SiteSnapshot.Proofs.Bundle.Copying
import SiteSnapshot.Proofs.Bundle.Entries
import SiteSnapshot.Proofs.Bundle.Exact
import SiteSnapshot.Proofs.Bundle.Interchange
import SiteSnapshot.Proofs.Bundle.Items
import SiteSnapshot.Proofs.Bundle.Reading
import SiteSnapshot.Proofs.Bundle.WalkOrder
import SiteSnapshot.Proofs.Catalog.CrawlPlan
import SiteSnapshot.Proofs.Catalog.DirectoryUnits
import SiteSnapshot.Proofs.Catalog.EntryFiles
import SiteSnapshot.Proofs.Catalog.Enumeration
import SiteSnapshot.Proofs.Catalog.PlannedPages
import SiteSnapshot.Proofs.Cli.Checks
import SiteSnapshot.Proofs.Cli.DryRun
import SiteSnapshot.Proofs.Crawl.RedirectChain
import SiteSnapshot.Proofs.Crawl.SiteRedirects
import SiteSnapshot.Proofs.Crawl.WithinSite
import SiteSnapshot.Proofs.Export.Concurrency
import SiteSnapshot.Proofs.Export.ConfigFields
import SiteSnapshot.Proofs.Export.Destination
import SiteSnapshot.Proofs.Export.Events
import SiteSnapshot.Proofs.Export.Interleaving
import SiteSnapshot.Proofs.Export.PageReport
import SiteSnapshot.Proofs.Export.PagesWithin
import SiteSnapshot.Proofs.Export.Phases
import SiteSnapshot.Proofs.Export.Repeat
import SiteSnapshot.Proofs.Export.SeparatePages
import SiteSnapshot.Proofs.Export.Sequential
import SiteSnapshot.Proofs.Export.SharedTree
import SiteSnapshot.Proofs.Export.Stops
import SiteSnapshot.Proofs.Export.Tally
import SiteSnapshot.Proofs.Export.WrittenPages
import SiteSnapshot.Proofs.FileTree.Containment
import SiteSnapshot.Proofs.FileTree.Development
import SiteSnapshot.Proofs.FileTree.Directories
import SiteSnapshot.Proofs.FileTree.Faults
import SiteSnapshot.Proofs.FileTree.Files
import SiteSnapshot.Proofs.FileTree.Growth
import SiteSnapshot.Proofs.FileTree.Places
import SiteSnapshot.Proofs.FileTree.Walks
import SiteSnapshot.Proofs.FileTree.Writing
import SiteSnapshot.Proofs.Html.Outline
import SiteSnapshot.Proofs.Html.TemplateContents
import SiteSnapshot.Proofs.Json.Grammar
import SiteSnapshot.Proofs.Json.Reading
import SiteSnapshot.Proofs.Layout.Above
import SiteSnapshot.Proofs.Layout.Actions
import SiteSnapshot.Proofs.Layout.Additions
import SiteSnapshot.Proofs.Layout.Below
import SiteSnapshot.Proofs.Layout.Effects
import SiteSnapshot.Proofs.Layout.Frame
import SiteSnapshot.Proofs.Layout.Links
import SiteSnapshot.Proofs.Layout.Names
import SiteSnapshot.Proofs.Layout.NormalForm
import SiteSnapshot.Proofs.Layout.Output
import SiteSnapshot.Proofs.Layout.Separation
import SiteSnapshot.Proofs.Page.DocumentOrder
import SiteSnapshot.Proofs.Page.Stability
import SiteSnapshot.Proofs.Text.Decoding
import SiteSnapshot.Proofs.Text.Order
import SiteSnapshot.Proofs.Url.Authority
import SiteSnapshot.Proofs.Url.Blobs
import SiteSnapshot.Proofs.Url.Descent
import SiteSnapshot.Proofs.Url.Encoding
import SiteSnapshot.Proofs.Url.Hosts
import SiteSnapshot.Proofs.Url.Normal
import SiteSnapshot.Proofs.Url.Rereading
import SiteSnapshot.Proofs.Url.Schemes
import SiteSnapshot.Proofs.Url.Segments
import SiteSnapshot.Text.Blank
import SiteSnapshot.Text.Digit
import SiteSnapshot.Text.Utf8
import SiteSnapshot.Url.Basic
import SiteSnapshot.Url.Domain
import SiteSnapshot.Url.Domain.Composition
import SiteSnapshot.Url.Domain.Direction
import SiteSnapshot.Url.Domain.Joining
import SiteSnapshot.Url.Domain.Mapping
import SiteSnapshot.Url.Domain.Punycode
import SiteSnapshot.Url.Domain.Ranges
import SiteSnapshot.Url.Host
import SiteSnapshot.Url.Parse
import SiteSnapshot.Url.Percent
