import SchemaRecords.Charset.Designated
import SchemaRecords.Charset.Dos
import SchemaRecords.Charset.Escaped
import SchemaRecords.Charset.Iso8859
import SchemaRecords.Charset.Macintosh
import SchemaRecords.Charset.Mainframe
import SchemaRecords.Charset.National
import SchemaRecords.Charset.Shifted
import SchemaRecords.Charset.Special
import SchemaRecords.Charset.Unicode
import SchemaRecords.Charset.Windows

/-!
# Character sets by name

* `spelling` -- a name as the sets are called: lower case, with one low line for each run of other
  characters inside;
* `charsets`, `find?` -- all sets, and the one that a name calls.
-/

namespace SchemaRecords.Charset

/-- The runs of letters, digits and full stops of a name. -/
def runsOf (name : List Char) : List (List Char) :=
  ((name.map fun c => if c.isAlphanum || c == '.' then c.toLower else '_').splitOn '_').filter
    (!·.isEmpty)

/-- A name as the sets are called. -/
def spelling (name : List Char) : List Char := ['_'].intercalate (runsOf name)

/-- All sets. -/
def charsets : List Charset :=
  unicode ++ international ++ windows ++ dos ++ macintosh ++ national ++ mainframe ++ japanese ++
    korean ++ chinese ++ designated ++ shifted ++ escaped ++ special

/-- The set that a name calls. -/
def find? (name : List Char) : Option Charset := charsets.find? (isNamed (spelling name))

end SchemaRecords.Charset
