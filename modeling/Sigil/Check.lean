import Sigil.Document
import Sigil.Scan
import Sigil.Style

/-! # Checking documents

    A document is scanned, and its styles are checked as its kind demands. -/

namespace Sigil

/-- The findings on the styles of a document: a stylesheet is style throughout, a
    markup text in its style elements, a script nowhere. -/
def styleFindings (kind : DocumentKind) (t : Text) : List Finding :=
  match kind with
  | .stylesheet => Style.check t
  | .markup => Style.checkRegions t
  | .script => []

/-- **Check.**  All findings on a document, in order of their offsets. -/
def check (catalog : Catalog) (kind : DocumentKind) (t : Text) : List Finding :=
  Finding.sort (scan catalog t ++ styleFindings kind t)

end Sigil
