import HtmlMarkdown.Document.Tree
import HtmlMarkdown.Html.PlainText
import HtmlMarkdown.Service
import HtmlMarkdown.Proofs.Convert.Recursion
import HtmlMarkdown.Proofs.Convert.OneVisit
import HtmlMarkdown.Proofs.Convert.Depth
import HtmlMarkdown.Proofs.Rule.Index
import HtmlMarkdown.Proofs.Rule.Standard
import HtmlMarkdown.Proofs.Markdown.Escape
import HtmlMarkdown.Proofs.Markdown.Spelling
import HtmlMarkdown.Proofs.Convert.Content
import HtmlMarkdown.Proofs.Markdown.LineStart
import HtmlMarkdown.Proofs.Convert.PlainLayout
import HtmlMarkdown.Proofs.Rule.History
import HtmlMarkdown.Proofs.Convert.Mirror
import HtmlMarkdown.Proofs.Convert.Mail
import HtmlMarkdown.Proofs.Convert.Words
import HtmlMarkdown.Proofs.Convert.Hidden
import HtmlMarkdown.Proofs.Table.CellText
import HtmlMarkdown.Proofs.Table.Grid
import HtmlMarkdown.Proofs.Markdown.Lines
import HtmlMarkdown.Proofs.Service.PlainText
import HtmlMarkdown.Proofs.Convert.Lists
import HtmlMarkdown.Proofs.Markdown.Quoted
import HtmlMarkdown.Proofs.Convert.Quotes
import HtmlMarkdown.Proofs.Rule.Book
import HtmlMarkdown.Proofs.Document.BothTexts
import HtmlMarkdown.Proofs.Service.Batch
import HtmlMarkdown.Proofs.Service.Encoded
import HtmlMarkdown.Proofs.Service.Finish
import HtmlMarkdown.Proofs.Convert.MailQuotes
import HtmlMarkdown.Proofs.Markdown.OnePass
import HtmlMarkdown.Proofs.Markdown.Headings
import HtmlMarkdown.Proofs.Markdown.FencedCode
import HtmlMarkdown.Proofs.Email.Shadowed
import HtmlMarkdown.Proofs.Email.StyleAttribute
import HtmlMarkdown.Proofs.Markdown.Gaps
import HtmlMarkdown.Proofs.Table.Header
import HtmlMarkdown.Proofs.Convert.InlineSpace
import HtmlMarkdown.Proofs.Markdown.CodeSpan
import HtmlMarkdown.Proofs.Rule.CodeBlock
import HtmlMarkdown.Proofs.Email.Untouched
import HtmlMarkdown.Proofs.Email.Revealed
import HtmlMarkdown.Proofs.Selector.Reading
import HtmlMarkdown.Proofs.Html.PlainText
import HtmlMarkdown.Proofs.Rule.Link
import HtmlMarkdown.Proofs.Rule.Target
import HtmlMarkdown.Proofs.Text.Collapse
import HtmlMarkdown.Proofs.Convert.Siblings
