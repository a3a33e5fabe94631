/-
Secrets and their masking. Every occurrence of a secret in a text is replaced by
a mask. Longer secrets are masked first, so that a secret that contains another
one is never left half visible.
-/
import SourceSync.Text.Search
import SourceSync.Text.Utf8
import SourceSync.Text.Blank

namespace SourceSync

/-- The active secrets, none of them empty. -/
structure Secrets where
  values : List String
  nonempty : ∀ s ∈ values, s ≠ ""

namespace Secrets

/-- What is written in place of a secret. -/
def mask : String := "****"

/-- The secrets of a list; empty texts are left out. -/
def ofList (values : List String) : Secrets where
  values := values.filter (fun s => s != "")
  nonempty := by
    intro s hs
    simpa using (List.mem_filter.mp hs).2

def none : Secrets := ofList []

instance : Inhabited Secrets := ⟨none⟩

/-- The secrets in the order in which they are masked: longest first, by octets,
and in the order given among equals. -/
def maskingOrder (values : List String) : List String :=
  (values.filter (fun s => s != "")).mergeSort (fun a b => b.utf8ByteSize ≤ a.utf8ByteSize)

/-- Mask one text after another. -/
def maskAll (secrets : List String) (cs : List Char) : List Char :=
  secrets.foldl (fun cs s => Text.replaceAll s.toList mask.toList cs) cs

/-- The message with every secret masked. -/
def redactWith (values : List String) (message : String) : String :=
  String.ofList (maskAll (maskingOrder values) message.toList)

/-- The message with every active secret masked. -/
def redact (s : Secrets) (message : String) : String :=
  redactWith s.values message

/-- How a set of secrets is shown to developers: only their number. -/
def describe (s : Secrets) : String :=
  s!"Secrets \x7b count: {s.values.length} \x7d"

end Secrets

/-- A writer that holds octets back until they are flushed and then passes them on
as text with secrets masked. -/
structure MaskingWriter where
  held : List UInt8
  written : List UInt8
  isOpen : Bool

namespace MaskingWriter

def fresh : MaskingWriter := ⟨[], [], true⟩

/-- Hold octets back. -/
def write (w : MaskingWriter) (octets : List UInt8) : MaskingWriter :=
  if w.isOpen then { w with held := w.held ++ octets } else w

/-- Pass on what is held, as text in which the active secrets are masked. -/
def flush (w : MaskingWriter) (secrets : Secrets) : MaskingWriter :=
  if w.isOpen && !w.held.isEmpty then
    let text := secrets.redact (String.ofList (Text.Utf8.decodeLossy w.held))
    { w with held := [], written := w.written ++ Text.Utf8.encode text }
  else w

/-- Flush for the last time. -/
def close (w : MaskingWriter) (secrets : Secrets) : MaskingWriter :=
  { w.flush secrets with isOpen := false }

end MaskingWriter

end SourceSync
