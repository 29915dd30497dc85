import HtmlMarkdown.Document.Node

/-!
# Embedded images

Images that come with a mail, as opposed to linked ones.
-/

namespace HtmlMarkdown.Email

/-- Is the image part of the mail: by the scheme of its source, or by one of the names that
Outlook gives to attachments? -/
def isInlineImage (n : Node) : Bool :=
  let src := Text.trim (n.attrD "src")
  let lowered := Text.lower src
  ["cid:", "data:", "blob:"].any (fun scheme => Text.isPrefix (scheme : String).toList lowered) ||
    ["image001", "image002"].any fun name => Text.contains (name : String).toList src

end HtmlMarkdown.Email
