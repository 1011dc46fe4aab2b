import SchemaRecords.Command.Run
import SchemaRecords.Proofs.File.Saved
import SchemaRecords.Proofs.Json.Number
import SchemaRecords.Proofs.Source.Literal
import SchemaRecords.Proofs.Text.Refused

/-!
# What becomes of the text of declarations

* `Delivery` -- the six ways in which a text is delivered: it is printed or refused; or writing is
  denied, the file is emptied and the text refused, it is written and the line that tells of it
  refused, or all is well;
* `delivery_deliver` -- **these are all**;
* `Taken` -- the requests of which the text is taken where it goes, so that none is refused.
-/

namespace SchemaRecords.Command

open Text.Utf8 (refusal? refusal?_append refusal?_of_forall refusal?_shown)

variable {declarations : List Record.Declaration}

/-- The line that tells of a file is taken exactly if its path is. -/
theorem refusal?_generated {handling : Text.Utf8.Handling} {path : File.Path} :
    refusal? handling (Text.shown (generated path declarations)) = none ↔
      refusal? handling path.text = none := by
  have hcount : refusal? handling (toString declarations.length) = none := by
    refine refusal?_of_forall fun c hc => Json.isHalf_of_isDigit ?_
    rw [Json.toList_toString_nat] at hc
    exact Number.isDigit_of_mem_toDigits hc
  have hwords : refusal? handling "Generated " = none ∧ refusal? handling " (" = none ∧
      refusal? handling " declarations)\n" = none := by
    cases handling <;> decide
  obtain ⟨hfirst, hopen, hlast⟩ := hwords
  have hline : generated path declarations = "Generated " ++ path.text ++ " (" ++
      toString declarations.length ++ " declarations)\n" := rfl
  rw [refusal?_shown, hline, refusal?_append, refusal?_append, refusal?_append, refusal?_append]
  constructor
  · rintro ⟨⟨⟨⟨_, hpath⟩, _⟩, _⟩, _⟩
    exact hpath
  · exact fun hpath => ⟨⟨⟨⟨hfirst, hpath⟩, hopen⟩, hcount⟩, hlast⟩

/-- A text of lines is taken exactly if each of them is. -/
theorem refusal?_unlines {handling : Text.Utf8.Handling} {lines : List String} :
    refusal? handling (Source.unlines lines) = none ↔
      ∀ line ∈ lines, refusal? handling line = none := by
  induction lines with
  | nil => exact iff_of_true rfl nofun
  | cons line rest ih =>
    have hbreak : refusal? handling "\n" = none := by cases handling <;> decide
    rw [unlines_cons, refusal?_append, refusal?_append, and_iff_right hbreak, ih,
      List.forall_mem_cons]

/-- The text that a request makes of declarations. -/
abbrev Request.sourceOf (request : Request) (declarations : List Record.Declaration) : String :=
  Source.render request.space declarations

/-- **The ways in which the text of declarations is delivered**, and the report of each. -/
inductive Delivery (world : World) (request : Request) (declarations : List Record.Declaration) :
    Report → Prop where
  | unprinted {refusal} (notices : String) (hnone : request.output = none)
      (hrefused : refusal? world.stdout (Text.shown (request.sourceOf declarations)) = some refusal) :
      Delivery world request declarations (.ofFault world.tree notices (.unencodable refusal))
  | printed (notices : String) (hnone : request.output = none)
      (htaken : refusal? world.stdout (Text.shown (request.sourceOf declarations)) = none) :
      Delivery world request declarations
        ⟨.status 0, Text.shown (request.sourceOf declarations), notices, world.tree⟩
  | denied {output denial tree} (notices : String) (houtput : request.output = some output)
      (hdenied : ¬world.tree.Creatable (.ofText output))
      (hgrown : File.Tree.Grown (world.tree.way (File.Path.ofText output).parent) world.tree tree) :
      Delivery world request declarations (.ofFault tree notices (.denied denial))
  | emptied {output refusal} (notices : String) (houtput : request.output = some output)
      (hfree : world.tree.Creatable (.ofText output))
      (hrefused : refusal? .strict (request.sourceOf declarations) = some refusal) :
      Delivery world request declarations
        (.ofFault (world.tree.save (.ofText output) []).tree notices (.unencodable refusal))
  | untold {output refusal} (notices : String) (houtput : request.output = some output)
      (hfree : world.tree.Creatable (.ofText output))
      (htaken : refusal? .strict (request.sourceOf declarations) = none)
      (hrefused : refusal? world.stdout
        (Text.shown (generated (.ofText output) declarations)) = some refusal) :
      Delivery world request declarations
        (.ofFault (world.tree.save (.ofText output)
          (Text.Utf8.encode (request.sourceOf declarations))).tree notices (.unencodable refusal))
  | saved {output} (notices : String) (houtput : request.output = some output)
      (hfree : world.tree.Creatable (.ofText output))
      (htaken : refusal? .strict (request.sourceOf declarations) = none)
      (htold : refusal? world.stdout (Text.shown (generated (.ofText output) declarations)) = none) :
      Delivery world request declarations
        ⟨.status 0, Text.shown (generated (.ofText output) declarations), notices,
          (world.tree.save (.ofText output)
            (Text.Utf8.encode (request.sourceOf declarations))).tree⟩

/-- **A text is delivered in one of these ways.** -/
theorem delivery_deliver (world : World) (request : Request) (log : List Notice)
    (declarations : List Record.Declaration) :
    Delivery world request declarations (deliver world request log declarations) := by
  unfold deliver
  dsimp only
  cases houtput : request.output with
  | none =>
    unfold print
    cases hrefused : refusal? world.stdout (Text.shown (request.sourceOf declarations)) with
    | some refusal => exact .unprinted _ houtput hrefused
    | none => exact .printed _ houtput hrefused
  | some output =>
    unfold write
    dsimp only
    by_cases hfree : world.tree.Creatable (.ofText output)
    · cases hrefused : refusal? .strict (request.sourceOf declarations) with
      | some refusal =>
        rw [Option.isSome_some, if_pos rfl, hfree.save]
        exact .emptied _ houtput hfree hrefused
      | none =>
        rw [Option.isSome_none, if_neg Bool.false_ne_true, hfree.save]
        dsimp only [Option.map_none, Option.or_none]
        unfold print
        cases htold : refusal? world.stdout (Text.shown (generated (.ofText output) declarations)) with
        | some refusal => exact .untold _ houtput hfree hrefused htold
        | none => exact .saved _ houtput hfree hrefused htold
    · have hdenied (octets : List UInt8) :
          (world.tree.save (.ofText output) octets).denial ≠ none :=
        fun h => hfree (File.Tree.save_denial_eq_none.mp h)
      generalize (if (refusal? .strict (request.sourceOf declarations)).isSome then []
        else Text.Utf8.encode (request.sourceOf declarations)) = octets
      obtain ⟨denial, hdenial⟩ := Option.ne_none_iff_exists'.mp (hdenied octets)
      rw [hdenial]
      exact .denied _ houtput hfree (File.Tree.grown_save_of_denial (hdenied octets))

/-- **The text of declarations is taken where it goes**: where it is printed; or, where a file can be
    made, by the file, which takes no half, and then its path where it is told of. -/
def Taken (world : World) (request : Request) (declarations : List Record.Declaration) : Prop :=
  match request.output with
  | none => refusal? world.stdout (request.sourceOf declarations) = none
  | some output => world.tree.Creatable (.ofText output) →
      refusal? .strict (request.sourceOf declarations) = none ∧
        refusal? world.stdout (File.Path.ofText output).text = none

theorem taken_iff {world : World} {request : Request} {output : String}
    (houtput : request.output = some output) (hfree : world.tree.Creatable (.ofText output)) :
    Taken world request declarations ↔
      refusal? .strict (request.sourceOf declarations) = none ∧
        refusal? world.stdout (File.Path.ofText output).text = none := by
  rw [Taken, houtput]
  exact forall_prop_of_true hfree

end SchemaRecords.Command
