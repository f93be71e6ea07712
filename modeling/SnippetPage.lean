import SnippetPage.Highlight.Cache
import SnippetPage.Main
import SnippetPage.Scroll.Panes
import SnippetPage.Proofs.Page.Deletion
import SnippetPage.Proofs.Page.Ended
import SnippetPage.Proofs.Page.Failure
import SnippetPage.Proofs.Page.Flags
import SnippetPage.Proofs.Page.LatestComparison
import SnippetPage.Proofs.Page.Offer
import SnippetPage.Proofs.Page.Operations
import SnippetPage.Proofs.Page.Provenance
import SnippetPage.Proofs.Page.SaveTarget
import SnippetPage.Proofs.Page.SavedForm
import SnippetPage.Proofs.Scroll.Alignment
import SnippetPage.Proofs.Scroll.Burst
import SnippetPage.Proofs.Scroll.Echo
import SnippetPage.Proofs.Json.Lexeme
import SnippetPage.Proofs.Json.Spelling
import SnippetPage.Proofs.Json.Reading
import SnippetPage.Proofs.Digits
import SnippetPage.Proofs.Json.Record
import SnippetPage.Proofs.Json.Writing
import SnippetPage.Proofs.Tags
import SnippetPage.Proofs.Timestamp
import SnippetPage.Proofs.Json.Respelling
import SnippetPage.Proofs.Wire.Kind
import SnippetPage.Proofs.Wire.RoundTrip
import SnippetPage.Proofs.Wire.Spelling
import SnippetPage.Proofs.Comparison.Plain
import SnippetPage.Proofs.Highlight.Cache
import SnippetPage.Proofs.Markup.Tree
import SnippetPage.Proofs.Comparison.Markup
import SnippetPage.Proofs.Markup.Scan
import SnippetPage.Proofs.View.Skeleton
import SnippetPage.Proofs.Page.Controls
import SnippetPage.Proofs.Page.Scrolling
import SnippetPage.Proofs.View.CopyButton
import SnippetPage.Proofs.Trimming
import SnippetPage.Proofs.Page.TagText
import SnippetPage.Proofs.Page.Pumping
import SnippetPage.Proofs.Page.Candidates
import SnippetPage.Proofs.Page.Notifications
import SnippetPage.Proofs.Page.Choice
import SnippetPage.Proofs.Highlight.CacheSize
import SnippetPage.Proofs.Highlight.Gutter
import SnippetPage.Proofs.Service.Reply
