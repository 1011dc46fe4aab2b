import SchemaRecords.Command.Run
import SchemaRecords.Proofs.Document.Entries

/-!
# Command lines with one option more

* `Passed` -- arguments behind which options are still read, and what those arguments say; what
  they say and what the others say is just put together (`read_passed`);
* `Leads` -- what stands in front of a verb, which is all that decides how the verb is found
  (`read_leads`, `exists_leads`);
* `Added` -- two command lines, of which the second has one option more behind the verb;
* `request_added` -- with a file to write added, the request is the same but for that file;
  `exists_added` -- a command line that is in order always has a place for it.
-/

namespace SchemaRecords.Command

/-! ## 1. What options say -/

namespace Given

variable {g h : Given} {key k : Key} {value : String}

/-- What arguments say with what further ones say. -/
def join (g h : Given) : Given := ⟨g.options ++ h.options, g.others ++ h.others⟩

theorem after_join (given : Settings) (g h : Given) :
    (g.after given).join h = (g.join h).after given := by
  simp only [after, join, List.append_assoc]

theorem afterOther_join (argument : String) (g h : Given) :
    (g.afterOther argument).join h = (g.join h).afterOther argument := rfl

/-- What is said later counts. -/
theorem value?_join (g h : Given) (key : Key) :
    (g.join h).value? key = (h.value? key).or (g.value? key) := by
  simp only [value?, join, List.reverse_append, List.lookup_append]

theorem value?_after (given : Settings) (g : Given) (key : Key) :
    (g.after given).value? key = (g.value? key).or (given.reverse.lookup key) := by
  simp only [value?, after, List.reverse_append, List.lookup_append]

/-- The keys that were given are those with a value. -/
theorem mem_keys : key ∈ g.keys ↔ ∃ value, g.value? key = some value := by
  rw [← Option.isSome_iff_exists, value?, List.lookup_isSome_iff, keys, List.mem_eraseDups,
    List.mem_map]
  simp only [List.mem_reverse, beq_iff_eq]
  exact exists_congr fun x => and_congr_right fun _ => eq_comm

/-- An option in the middle says nothing about the other options. -/
theorem value?_insert_of_ne (hk : key ≠ k) :
    (g.join (h.after [(k, value)])).value? key = (g.join h).value? key := by
  have hbeq : (key == k) = false := by simpa using hk
  have hlookup : [(k, value)].reverse.lookup key = none := by
    simp [List.lookup_cons, hbeq]
  rw [value?_join, value?_after, hlookup, Option.or_none, value?_join]

/-- And it has its value where it was not given before. -/
theorem value?_insert_self (hk : (g.join h).value? k = none) :
    (g.join (h.after [(k, value)])).value? k = some value := by
  rw [value?_join, Option.or_eq_none_iff] at hk
  have hlookup : [(k, value)].reverse.lookup k = some value := by simp
  rw [value?_join, value?_after, hk.1, hlookup, Option.none_or, Option.some_or]

end Given

/-! ## 2. Arguments that are passed -/

variable {switches : List Switch} {anywhere : Bool} {before front after rest : List String}
  {arguments arguments' : List String} {given : Given}

/-- **Arguments behind which an option is still read as one**, and what they say: options, each
    with its value if it takes one, and others where options may stand anywhere. -/
inductive Passed (switches : List Switch) (anywhere : Bool) : List String → Given → Prop where
  | nil : Passed switches anywhere [] ⟨[], []⟩
  | other {argument rest given} : anywhere = true → readOne switches argument = .ok .other →
      Passed switches anywhere rest given →
      Passed switches anywhere (argument :: rest) (given.afterOther argument)
  | options {argument rest given settings} :
      readOne switches argument = .ok (.options settings) → Passed switches anywhere rest given →
      Passed switches anywhere (argument :: rest) (given.after settings)
  | asking {argument value rest given settings key option} :
      readOne switches argument = .ok (.asking settings key option) →
      Passed switches anywhere rest given →
      Passed switches anywhere (argument :: value :: rest)
        (given.after (settings ++ [(key, value)]))

/-- **What passed arguments and the rest say is put together.** -/
theorem read_passed (h : Passed switches anywhere before given) (rest : List String) :
    read switches anywhere (before ++ rest) = (read switches anywhere rest).map given.join := by
  have hmap {f g k : Given → Given} (r : Except ArgumentFault Given) (e : ∀ x, f (g x) = k x) :
      (r.map g).map f = r.map k := by
    cases r with
    | error fault => rfl
    | ok x => exact congrArg Except.ok (e x)
  induction h with
  | nil =>
    rw [List.nil_append]
    cases read switches anywhere rest <;> rfl
  | other hany hone _ ih =>
    rw [List.cons_append, read, hone]
    dsimp only
    rw [if_pos hany, ih]
    exact hmap _ fun x => (Given.afterOther_join _ _ x).symm
  | options hone _ ih =>
    rw [List.cons_append, read, hone]
    dsimp only
    rw [ih]
    exact hmap _ fun x => (Given.after_join _ _ x).symm
  | asking hone _ ih =>
    rw [List.cons_append, List.cons_append, read, hone]
    dsimp only
    rw [ih]
    exact hmap _ fun x => (Given.after_join _ _ x).symm

/-- Where options stand in front, nothing else is passed. -/
theorem others_of_passed (h : Passed switches false before given) : given.others = [] := by
  induction h with
  | nil => rfl
  | other hany => cases hany
  | options _ _ ih => exact ih
  | asking _ _ ih => exact ih

/-- **What stands in front of a verb**, and what it says: options, and maybe the two hyphens that
    end them. -/
def Leads (switches : List Switch) (front : List String) (given : Given) : Prop :=
  Passed switches false front given ∨
    ∃ options hyphens, front = options ++ [hyphens] ∧ readOne switches hyphens = .ok .ending ∧
      Passed switches false options given

theorem readOne_verb (switches : List Switch) (verb : Verb) :
    readOne switches verb.name = .ok .other := by
  cases verb <;> rfl

/-- The arguments from the verb on are left over. -/
theorem read_leads (h : Leads switches front given) (verb : Verb) (rest : List String) :
    read switches false (front ++ verb.name :: rest) =
      .ok ⟨given.options, verb.name :: rest⟩ := by
  rcases h with h | ⟨options, hyphens, rfl, hend, h⟩
  · rw [read_passed h, read, readOne_verb]
    simp [Except.map, Given.join, others_of_passed h]
  · rw [List.append_assoc, List.singleton_append, read_passed h, read, hend]
    simp [Except.map, Given.join, others_of_passed h]

/-- One more argument that is passed stands in front, too. -/
theorem Leads.cons {passed : List String} {settings : Settings} (h : Leads switches front given)
    (hpass : ∀ {before g}, Passed switches false before g →
      Passed switches false (passed ++ before) (g.after settings)) :
    Leads switches (passed ++ front) (given.after settings) := by
  rcases h with h | ⟨options, hyphens, rfl, hend, h⟩
  · exact Or.inl (hpass h)
  · exact Or.inr ⟨passed ++ options, hyphens, (List.append_assoc ..).symm, hend, hpass h⟩

/-- Arguments are what stands in front and what is left over. -/
theorem exists_leads (h : read switches false arguments = .ok given) :
    ∃ front, arguments = front ++ given.others ∧ Leads switches front ⟨given.options, []⟩ := by
  induction arguments using read.induct switches false generalizing given with
  | case1 =>
    cases h
    exact ⟨[], rfl, .inl .nil⟩
  | case2 argument rest fault hone =>
    rw [read, hone] at h
    cases h
  | case3 argument rest hone =>
    rw [read, hone] at h
    cases h
    exact ⟨[argument], rfl, .inr ⟨[], argument, rfl, hone, .nil⟩⟩
  | case4 argument rest hone hany =>
    cases hany
  | case5 argument rest hone =>
    rw [read, hone] at h
    cases h
    exact ⟨[], rfl, .inl .nil⟩
  | case6 argument rest settings hone ih =>
    rw [read, hone] at h
    obtain ⟨g, hg, rfl⟩ := map_eq_ok.mp h
    obtain ⟨front, rfl, hfront⟩ := ih hg
    exact ⟨[argument] ++ front, rfl, hfront.cons fun hp => .options hone hp⟩
  | case7 argument settings key option hone =>
    rw [read, hone] at h
    cases h
  | case8 argument settings key option hone value rest ih =>
    rw [read, hone] at h
    obtain ⟨g, hg, rfl⟩ := map_eq_ok.mp h
    obtain ⟨front, rfl, hfront⟩ := ih hg
    exact ⟨[argument, value] ++ front, rfl, hfront.cons fun hp => .asking hone hp⟩

/-! ## 3. Requests -/

theorem readPage_eq_ok {page : Page} :
    readPage page anywhere arguments = .ok given ↔
      read page.switches anywhere arguments = .ok given ∧ given.has .help = false := by
  unfold readPage
  split
  · rename_i fault h
    rw [h]
    exact iff_of_false nofun fun h => nomatch h.1
  · rename_i g h
    rw [h]
    split
    · rename_i hhelp
      refine iff_of_false nofun ?_
      rintro ⟨e, hno⟩
      cases e
      rw [hhelp] at hno
      cases hno
    · rename_i hhelp
      constructor
      · intro e
        cases e
        exact ⟨rfl, Bool.eq_false_iff.mpr hhelp⟩
      · rintro ⟨e, _⟩
        cases e
        rfl

theorem checkValues_eq_ok {tree : File.Tree} {page : Page} {keys : List Key} :
    checkValues tree page given keys = .ok () ↔
      ∀ key ∈ keys, checkValue tree page key ((given.value? key).getD "") = .ok () := by
  induction keys with
  | nil => simp [checkValues]
  | cons key rest ih =>
    rw [checkValues, List.forall_mem_cons, ← ih]
    cases checkValue tree page key ((given.value? key).getD "") with
    | error stop => exact iff_of_false nofun fun h => nomatch h.1
    | ok _ => exact (and_iff_right rfl).symm

/-- The request of a verb, where the arguments behind it are in order. -/
theorem ofVerb_eq_ok {tree : File.Tree} {verbose : Bool} {verb : Verb} {request : Request} :
    Request.ofVerb tree verbose verb arguments = .ok request ↔
      ∃ given source task, read (Page.verb verb).switches true arguments = .ok given ∧
        given.has .help = false ∧
        (∀ key ∈ given.keys,
          checkValue tree (.verb verb) key ((given.value? key).getD "") = .ok ()) ∧
        given.others = [source] ∧ taskOf (.verb verb) given verb = .ok task ∧
        request = ⟨verbose, task, source, (given.value? .space).getD Source.defaultSpace,
          ((given.value? .policy).bind Name.Policy.ofName?).getD .refuse, given.value? .output⟩ := by
  unfold Request.ofVerb
  constructor
  · intro h
    obtain ⟨given, hgiven, h⟩ := bind_eq_ok.mp h
    obtain ⟨hread, hhelp⟩ := readPage_eq_ok.mp hgiven
    obtain ⟨_, hchecked, h⟩ := bind_eq_ok.mp h
    have hchecked := checkValues_eq_ok.mp hchecked
    split at h
    · cases h
    · rename_i source extra hothers
      obtain ⟨task, htask, h⟩ := bind_eq_ok.mp h
      split at h
      · rename_i hextra
        cases h
        rw [List.isEmpty_iff.mp hextra] at hothers
        exact ⟨given, source, task, hread, hhelp, hchecked, hothers, htask, rfl⟩
      · cases h
  · rintro ⟨given, source, task, hread, hhelp, hchecked, hothers, htask, rfl⟩
    refine bind_eq_ok.mpr ⟨given, readPage_eq_ok.mpr ⟨hread, hhelp⟩, ?_⟩
    refine bind_eq_ok.mpr ⟨(), checkValues_eq_ok.mpr hchecked, ?_⟩
    rw [hothers]
    exact bind_eq_ok.mpr ⟨task, htask, rfl⟩

theorem name_of_ofName? {word : String} {verb : Verb} (h : Verb.ofName? word = some verb) :
    verb.name = word := by
  simpa using List.find?_some h

theorem Verb.name_inj {v w : Verb} : v.name = w.name ↔ v = w := by
  refine ⟨fun h => Option.some.inj ?_, fun h => h ▸ rfl⟩
  rw [← Verb.ofName?_name v, h, Verb.ofName?_name]

/-- The request of the arguments of the program: what stands in front of the verb asks for no help,
    and the arguments behind the verb are in order. -/
theorem ofArguments_eq_ok {tree : File.Tree} {request : Request} :
    Request.ofArguments tree arguments = .ok request ↔
      ∃ given verb rest, read Page.program.switches false arguments = .ok given ∧
        given.has .help = false ∧ given.others = Verb.name verb :: rest ∧
        Request.ofVerb tree (given.has .verbose) verb rest = .ok request := by
  unfold Request.ofArguments
  constructor
  · intro h
    split at h
    · cases h
    · obtain ⟨given, hgiven, h⟩ := bind_eq_ok.mp h
      obtain ⟨hread, hhelp⟩ := readPage_eq_ok.mp hgiven
      split at h
      · cases h
      · rename_i word rest hothers
        split at h
        · rename_i verb hverb
          rw [← name_of_ofName? hverb] at hothers
          exact ⟨given, verb, rest, hread, hhelp, hothers, h⟩
        · obtain ⟨_, _, h⟩ := bind_eq_ok.mp h
          cases h
  · rintro ⟨given, verb, rest, hread, hhelp, hothers, h⟩
    rw [if_neg]
    · refine bind_eq_ok.mpr ⟨given, readPage_eq_ok.mpr ⟨hread, hhelp⟩, ?_⟩
      rw [hothers]
      dsimp only
      rw [Verb.ofName?_name]
      exact h
    · intro hempty
      rw [List.isEmpty_iff.mp hempty] at hread
      cases hread
      cases hothers

/-! ## 4. One option more -/

/-- **Two command lines, of which the second has one option more**: behind the verb, and where an
    option is still read as one. -/
inductive Added (option value : String) : List String → List String → Prop where
  | intro (verb : Verb) (front before after : List String) {leading passed : Given} :
      Leads Page.program.switches front leading →
      Passed (Page.verb verb).switches true before passed →
      Added option value (front ++ verb.name :: (before ++ after))
        (front ++ verb.name :: (before ++ option :: value :: after))

variable {tree : File.Tree} {request : Request} {option value output : String}

/-- In every command line that is in order there is a place for one option more. -/
theorem exists_added (h : Request.ofArguments tree arguments = .ok request)
    (option value : String) : ∃ arguments', Added option value arguments arguments' := by
  obtain ⟨given, verb, rest, hread, _, hothers, _⟩ := ofArguments_eq_ok.mp h
  obtain ⟨front, rfl, hfront⟩ := exists_leads hread
  rw [hothers]
  exact ⟨_, .intro verb front [] rest hfront .nil⟩

theorem readOne_output (verb : Verb) :
    readOne (Page.verb verb).switches "--output" = .ok (.asking [] .output "--output") := by
  cases verb <;> rfl

/-- What arguments with a file to write say, next to what they say without it. -/
theorem read_output {verb : Verb} {passed : Given} (output : String)
    (hpass : Passed (Page.verb verb).switches true before passed)
    (h : read (Page.verb verb).switches true (before ++ after) = .ok given) :
    ∃ further : Given, given = passed.join further ∧
      read (Page.verb verb).switches true (before ++ "--output" :: output :: after) =
        .ok (passed.join (further.after [(.output, output)])) := by
  rw [read_passed hpass] at h ⊢
  obtain ⟨further, hfurther, rfl⟩ := map_eq_ok.mp h
  refine ⟨further, rfl, ?_⟩
  rw [read, readOne_output]
  dsimp only
  rw [hfurther]
  rfl

/-- **With a file to write added, the request is the same but for that file.** -/
theorem request_added (h : Added "--output" output arguments arguments')
    (hr : Request.ofArguments tree arguments = .ok request) (hnone : request.output = none)
    (htaken : Text.Utf8.refusal? .lenient output = none)
    (hnull : output.contains (Char.ofNat 0) = false)
    (hfolder : tree.isFolder (.ofText output) = false) :
    Request.ofArguments tree arguments' = .ok { request with output := some output } := by
  obtain ⟨verb, front, before, after, hfront, hpass⟩ := h
  rename_i leading passed
  obtain ⟨given, verb', rest, hread, hhelp, hothers, hverb⟩ := ofArguments_eq_ok.mp hr
  rw [read_leads hfront] at hread
  cases hread
  obtain ⟨hname, rfl⟩ := List.cons.inj hothers
  obtain rfl : verb = verb' := Verb.name_inj.mp hname
  refine ofArguments_eq_ok.mpr ⟨_, verb, _, read_leads hfront verb _, hhelp, rfl, ?_⟩
  obtain ⟨given, source, task, hread, hhelp, hchecked, hothers, htask, rfl⟩ := ofVerb_eq_ok.mp hverb
  obtain ⟨further, rfl, hread'⟩ := read_output output hpass hread
  have hsame (key : Key) (hk : key ≠ .output) :
      (passed.join (further.after [(.output, output)])).value? key =
        (passed.join further).value? key := Given.value?_insert_of_ne hk
  have hself : (passed.join (further.after [(.output, output)])).value? .output = some output :=
    Given.value?_insert_self hnone
  refine ofVerb_eq_ok.mpr ⟨_, source, task, hread', ?_, ?_, hothers, ?_, ?_⟩
  · rw [Given.has, hsame .help (by decide)]
    exact hhelp
  · -- every value was looked at before, but for the file, which is no folder
    intro key hkey
    by_cases hk : key = .output
    · subst hk
      rw [hself, checkValue, Option.getD_some, htaken]
      dsimp only
      rw [if_neg (by rw [hnull]; exact Bool.false_ne_true), hfolder, Bool.and_false,
        if_neg Bool.false_ne_true]
    · rw [hsame key hk]
      refine hchecked key (Given.mem_keys.mpr ?_)
      rw [← hsame key hk]
      exact Given.mem_keys.mp hkey
  · rw [← htask]
    unfold taskOf
    rw [hsame .root (by decide)]
  · rw [hsame .space (by decide), hsame .policy (by decide), hself]
    rfl

end SchemaRecords.Command
