import SchemaRecords.Text.Case

/-!
# Casing of names

Words are the stretches of a text between separators.

* `isSeparator` -- underscore, hyphen and blank start a new word and are dropped;
* `pascal` -- the words joined, the first character of each in upper case, the others as they are;
  a separator cuts a text into two that are read apart (`capitalize_append_separator`);
* `camel` -- the same with the very first character in lower case.
-/

namespace SchemaRecords.Name

open Text

/-- The characters between the words of a text. -/
def isSeparator (c : Char) : Bool := c == '_' || c == '-' || c == ' '

/-- The words joined; `fresh` says that the next character starts a word. -/
def capitalize : Bool → List Char → List Char
  | _, [] => []
  | fresh, c :: rest =>
      if isSeparator c then capitalize true rest
      else (if fresh then upperCase c else [c]) ++ capitalize false rest

@[simp] theorem capitalize_nil (fresh : Bool) : capitalize fresh [] = [] := rfl

/-- A separator ends a word: what is behind it is read as at the start of a text. -/
theorem capitalize_append_separator {c : Char} (h : isSeparator c = true) (s t : List Char)
    (fresh : Bool) :
    capitalize fresh (s ++ c :: t) = capitalize fresh s ++ capitalize true t := by
  induction s generalizing fresh with
  | nil => simp [capitalize, h]
  | cons d rest ih => by_cases hd : isSeparator d = true <;> simp [capitalize, hd, ih]

/-- The words of a text joined, each with its first character in upper case. -/
def pascal (s : String) : String := String.ofList (capitalize true s.toList)

@[simp] theorem toList_pascal (s : String) : (pascal s).toList = capitalize true s.toList := by
  simp [pascal]

/-- The characters with the first one in lower case. -/
def uncapitalize : List Char → List Char
  | [] => []
  | c :: rest => lowerCase c ++ rest

/-- The words of a text joined, the first character in lower case. -/
def camel (s : String) : String := String.ofList (uncapitalize (capitalize true s.toList))

@[simp] theorem toList_camel (s : String) :
    (camel s).toList = uncapitalize (capitalize true s.toList) := by
  simp [camel]

end SchemaRecords.Name
