/-!
# Parts of a text

* `startsWith`, `endsWith`, `mentions` -- whether a word stands at the front of a text, at its end,
  or anywhere in it;
* `cut` -- a text up to a mark and what is behind it.
-/

namespace SchemaRecords.Text

/-! ## 1. Words in a text -/

/-- Whether a text starts with a word. -/
def startsWith (word text : String) : Bool := word.toList.isPrefixOf text.toList

/-- Whether a text ends with a word. -/
def endsWith (word text : String) : Bool := word.toList.isSuffixOf text.toList

/-- Whether a word stands among some characters. -/
def occursIn (word : List Char) : List Char → Bool
  | [] => word.isEmpty
  | c :: rest => word.isPrefixOf (c :: rest) || occursIn word rest

/-- Whether a word stands in a text. -/
def mentions (word text : String) : Bool := occursIn word.toList text.toList

/-! ## 2. Cutting -/

/-- The text before the first mark and, if the mark is there, the text after it. -/
def cut (mark : Char) : List Char → List Char × Option (List Char)
  | [] => ([], none)
  | c :: rest =>
      if c == mark then ([], some rest)
      else
        let (before, behind) := cut mark rest
        (c :: before, behind)

end SchemaRecords.Text
