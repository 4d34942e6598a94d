import Sidebar.Text.Blank
/-!
# Rich text markup

`Widget::markup` in `crates/panelkit-widgets/src/widget.rs`.

A rich text block shows a document. A source that is already a document, one whose first
non-blank characters are `<html` in any mix of ASCII case, is shown as it is; any other
source is wrapped as the body of a document.
-/

namespace Sidebar
namespace Markup

/-- The tag that opens a document, in lower case. -/
def documentTag : String := "<html"

/-- Whether a source opens a document: after its leading white space it starts with
`<html`, compared without regard to ASCII case. -/
def isDocument (source : String) : Bool :=
  let lead := (Text.trimBlankStart source).toList.take documentTag.length
  lead.map Char.toLower == documentTag.toList

/-- The document shown for a source. -/
def document (source : String) : String :=
  if isDocument source then source else "<html><body>" ++ source ++ "</body></html>"

theorem document_of_isDocument {s : String} (h : isDocument s = true) : document s = s := by
  simp [document, h]

end Markup
end Sidebar
