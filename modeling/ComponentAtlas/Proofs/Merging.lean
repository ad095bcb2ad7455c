import ComponentAtlas.Component.Registration
import ComponentAtlas.Proofs.Lookup
import Mathlib.Data.List.Induction

/-!
# Merging findings

Merging follows three policies at once: a name keeps the place of its first definition, its
path is that of the last successful file which defines it, and its children are gathered from
all definitions. Each operation is given by what it does to the keys and to a look-up; an
induction on the usages of a file and one on the files then describe the merged catalog by
the findings alone.
-/

namespace ComponentAtlas.Component

/-- A file defines a name. -/
def Findings.defines (findings : Findings) (name : String) : Bool :=
  findings.usages.any (·.name == name)

/-- The usages that count: those of the successful files, in order. -/
def countedUsages (all : List Findings) : List Usage := (all.filter (·.ok)).flatMap (·.usages)

/-- What the definitions of a name render, in order, with repetitions. -/
def childrenOf (usages : List Usage) (name : String) : List String :=
  (usages.filter (·.name == name)).flatMap (·.children)

/-- The last successful file that defines a name. -/
def lastDefining? (all : List Findings) (name : String) : Option Findings :=
  all.reverse.find? fun findings => findings.ok && findings.defines name

/-- The record after one more definition, or several, in a file. -/
def Record.redefine (record : Record) (filePath : String) (children : List String) : Record :=
  { record with filePath, children := insertAll record.children children }

/-- Definitions in one file add up. -/
theorem Record.redefine_redefine (record : Record) (filePath : String)
    (first second : List String) :
    (record.redefine filePath first).redefine filePath second =
      record.redefine filePath (first ++ second) := by
  simp [redefine, insertAll_append]

/-- The children of a name come from the first usage of it and from those after it. -/
theorem childrenOf_cons (usage : Usage) (rest : List Usage) (name : String) :
    childrenOf (usage :: rest) name =
      (if usage.name = name then usage.children else []) ++ childrenOf rest name := by
  by_cases same : usage.name = name <;> simp [childrenOf, same]

/-- The children of a name come from both rows of usages in turn. -/
theorem childrenOf_append (front back : List Usage) (name : String) :
    childrenOf (front ++ back) name = childrenOf front name ++ childrenOf back name := by
  simp [childrenOf]

/-- A name renders what one of its definitions renders. -/
theorem mem_childrenOf {usages : List Usage} {name child : String} :
    child ∈ childrenOf usages name ↔
      ∃ usage ∈ usages, usage.name = name ∧ child ∈ usage.children := by
  simp [childrenOf, and_assoc]

/-- A name without definitions renders nothing. -/
theorem childrenOf_eq_nil {usages : List Usage} {name : String}
    (undefined : ∀ usage ∈ usages, usage.name ≠ name) : childrenOf usages name = [] := by
  simp only [childrenOf, List.flatMap_eq_nil_iff, List.mem_filter, beq_iff_eq, and_imp]
  intro usage member same
  exact absurd same (undefined usage member)

/-- Among several successful files the last one that defines a name comes at the end. -/
theorem lastDefining?_append_singleton (all : List Findings) (last : Findings) (name : String) :
    lastDefining? (all ++ [last]) name =
      if last.ok && last.defines name then some last else lastDefining? all name := by
  rw [lastDefining?, List.reverse_append, List.reverse_singleton, List.singleton_append,
    List.find?_cons, lastDefining?]
  cases last.ok && last.defines name <;> rfl

/-- After the last successful file that defines a name none does. -/
theorem lastDefining?_eq_some_iff {all : List Findings} {name : String} {last : Findings} :
    lastDefining? all name = some last ↔
      (last.ok = true ∧ last.defines name = true) ∧
        ∃ before after, all = before ++ last :: after ∧
          ∀ later ∈ after, later.ok = true → later.defines name = false := by
  rw [lastDefining?, List.find?_eq_some_iff_append, Bool.and_eq_true]
  apply and_congr_right
  intro _
  constructor
  · rintro ⟨after, before, split, none⟩
    refine ⟨before.reverse, after.reverse, ?_, ?_⟩
    · rw [← List.reverse_reverse all, split]
      simp
    · intro later member ok
      simpa [ok] using none later (List.mem_reverse.mp member)
  · rintro ⟨before, after, split, none⟩
    refine ⟨after.reverse, before.reverse, by simp [split], ?_⟩
    intro later member
    cases ok : later.ok with
    | false => rfl
    | true => simp [none later (List.mem_reverse.mp member) ok]

/-- A name is defined in a usage that counts exactly if some successful file defines it. -/
theorem lastDefining?_eq_none_iff {all : List Findings} {name : String} :
    lastDefining? all name = none ↔ ∀ usage ∈ countedUsages all, usage.name ≠ name := by
  simp only [lastDefining?, Findings.defines, countedUsages, List.find?_eq_none,
    List.mem_reverse, List.mem_flatMap, List.mem_filter, Bool.and_eq_true, List.any_eq_true,
    beq_iff_eq, not_and, not_exists, forall_exists_index, and_imp]
  exact ⟨fun none usage file member ok used => none file member ok usage used,
    fun none file member ok usage used => none usage file member ok used⟩

namespace Catalog

/-! ## One definition -/

/-- Registering a component inserts its name among the keys. -/
theorem keys_register (catalog : Catalog) {name : String} (component : isName name = true)
    (filePath : String) : (catalog.register name filePath).keys = insertNew catalog.keys name := by
  rw [register, if_pos component]
  cases found : catalog.get? name with
  | none => exact keys_set catalog name _
  | some record =>
    simp [insertNew, mem_keys_of_get? found]

/-- Registering a component gives its name a record of the file, a fresh one if there was
none, and leaves the others. -/
theorem get?_register (catalog : Catalog) {name : String} (component : isName name = true)
    (filePath other : String) :
    (catalog.register name filePath).get? other =
      if other = name then
        some { (catalog.get? name).getD (.solitary name filePath) with filePath }
      else catalog.get? other := by
  rw [register, if_pos component]
  cases found : catalog.get? name with
  | none => rw [get?_set]; rfl
  | some record =>
    rw [get?_adjust]
    by_cases same : other = name
    · subst same; simp [found]
    · simp [same]

/-- A definition inserts its name among the keys. -/
theorem keys_addUsage (catalog : Catalog) {usage : Usage} (component : isName usage.name = true)
    (filePath : String) :
    (catalog.addUsage filePath usage).keys = insertNew catalog.keys usage.name := by
  rw [addUsage, if_pos component, keys_adjust, keys_register catalog component]

/-- A definition moves its component to the file, adds its children and leaves the others. -/
theorem get?_addUsage (catalog : Catalog) {usage : Usage} (component : isName usage.name = true)
    (filePath other : String) :
    (catalog.addUsage filePath usage).get? other =
      if other = usage.name then
        some (((catalog.get? other).getD (.solitary other filePath)).redefine filePath
          usage.children)
      else catalog.get? other := by
  rw [addUsage, if_pos component, get?_adjust, get?_register catalog component]
  by_cases same : other = usage.name
  · subst same
    simp [Record.addChildren, Record.redefine]
  · simp [same]

/-- A definition of a name that is no component's changes nothing. -/
theorem addUsage_of_not_isName (catalog : Catalog) {usage : Usage}
    (other : isName usage.name = false) (filePath : String) :
    catalog.addUsage filePath usage = catalog := by
  simp [addUsage, other]

/-! ## One file -/

/-- Definitions in a file insert their names among the keys. -/
theorem keys_foldl_addUsage (catalog : Catalog) (filePath : String) (usages : List Usage) :
    (usages.foldl (addUsage filePath) catalog).keys =
      insertAll catalog.keys ((usages.map (·.name)).filter isName) := by
  induction usages generalizing catalog with
  | nil => rfl
  | cons usage rest ih =>
    rw [List.foldl_cons, ih]
    cases component : isName usage.name with
    | false => simp [addUsage_of_not_isName catalog component, component]
    | true => rw [keys_addUsage catalog component]; simp [component, insertAll]

/-- Definitions in a file move their component to the file and add all their children. -/
theorem get?_foldl_addUsage (catalog : Catalog) (filePath : String) (usages : List Usage)
    {name : String} (component : isName name = true) :
    (usages.foldl (addUsage filePath) catalog).get? name =
      if usages.any (·.name == name) then
        some (((catalog.get? name).getD (.solitary name filePath)).redefine filePath
          (childrenOf usages name))
      else catalog.get? name := by
  induction usages generalizing catalog with
  | nil => rfl
  | cons usage rest ih =>
    rw [List.foldl_cons, ih, childrenOf_cons]
    by_cases same : usage.name = name
    · subst same
      have step := get?_addUsage catalog component filePath usage.name
      rw [if_pos rfl] at step
      by_cases again : rest.any (·.name == usage.name) = true
      · simp [step, again, Record.redefine_redefine]
      · have last : childrenOf rest usage.name = [] := by
          apply childrenOf_eq_nil
          simpa using again
        simp [step, again, last]
    · have step : (catalog.addUsage filePath usage).get? name = catalog.get? name := by
        cases other : isName usage.name with
        | false => rw [addUsage_of_not_isName catalog other]
        | true => rw [get?_addUsage catalog other, if_neg (Ne.symm same)]
      simp [step, same]

/-- A name that is no component's is never found. -/
theorem get?_foldl_addUsage_of_not_isName (catalog : Catalog) (filePath : String)
    (usages : List Usage) {name : String} (other : isName name = false) :
    (usages.foldl (addUsage filePath) catalog).get? name = catalog.get? name := by
  induction usages generalizing catalog with
  | nil => rfl
  | cons usage rest ih =>
    rw [List.foldl_cons, ih]
    cases component : isName usage.name with
    | false => rw [addUsage_of_not_isName catalog component]
    | true =>
      have distinct : name ≠ usage.name := by
        rintro rfl
        simp [component] at other
      rw [get?_addUsage catalog component, if_neg distinct]

/-- Merging a file that failed changes nothing. -/
theorem merge_of_failed (catalog : Catalog) {findings : Findings} (failed : findings.ok = false) :
    catalog.merge findings = catalog := by
  simp [merge, failed]

/-! ## All files -/

/-- The catalog of findings, merged in order. -/
def ofFindings (all : List Findings) : Catalog := all.foldl merge empty

/-- The last file is merged after all others. -/
theorem ofFindings_append_singleton (all : List Findings) (last : Findings) :
    ofFindings (all ++ [last]) = (ofFindings all).merge last := by
  simp [ofFindings]

/-- Merging keeps the names of components in the order in which they first occur. -/
theorem keys_ofFindings (all : List Findings) :
    (ofFindings all).keys =
      firstOccurrences (((countedUsages all).map (·.name)).filter isName) := by
  induction all using List.reverseRecOn with
  | nil => rfl
  | append_singleton all last ih =>
    rw [ofFindings_append_singleton]
    cases ok : last.ok with
    | false => rw [merge_of_failed _ ok, ih]; simp [countedUsages, ok]
    | true =>
      rw [merge, if_pos ok, keys_foldl_addUsage, ih, firstOccurrences, ← insertAll_append,
        firstOccurrences]
      simp [countedUsages, ok]

/-- Merging gives a component the path of the last successful file that defines it, and the
first occurrences of what all its definitions render. -/
theorem get?_ofFindings (all : List Findings) {name : String} (component : isName name = true) :
    (ofFindings all).get? name = (lastDefining? all name).map fun last =>
      ⟨name, last.relPath, firstOccurrences (childrenOf (countedUsages all) name), []⟩ := by
  induction all using List.reverseRecOn with
  | nil => rfl
  | append_singleton all last ih =>
    rw [ofFindings_append_singleton, lastDefining?_append_singleton]
    cases ok : last.ok with
    | false =>
      have counted : countedUsages (all ++ [last]) = countedUsages all := by
        simp [countedUsages, ok]
      rw [merge_of_failed _ ok, ih, counted]
      simp
    | true =>
      have counted : countedUsages (all ++ [last]) = countedUsages all ++ last.usages := by
        simp [countedUsages, ok]
      rw [merge, if_pos ok, get?_foldl_addUsage _ _ _ component, ih, counted, childrenOf_append]
      cases defined : last.defines name with
      | true =>
        have mentioned : last.usages.any (·.name == name) = true := defined
        rw [if_pos mentioned]
        cases earlier : lastDefining? all name with
        | none =>
          rw [childrenOf_eq_nil (lastDefining?_eq_none_iff.mp earlier)]
          simp [Record.redefine, Record.solitary, firstOccurrences]
        | some _ => simp [Record.redefine, firstOccurrences, insertAll_append]
      | false =>
        have unmentioned : ¬ last.usages.any (·.name == name) = true := by
          simpa [Findings.defines] using defined
        have nothing : childrenOf last.usages name = [] := by
          apply childrenOf_eq_nil
          simpa using unmentioned
        rw [if_neg unmentioned, nothing]
        simp

/-- Merging finds nothing under a name that is no component's. -/
theorem get?_ofFindings_of_not_isName (all : List Findings) {name : String}
    (other : isName name = false) : (ofFindings all).get? name = none := by
  induction all using List.reverseRecOn with
  | nil => rfl
  | append_singleton all last ih =>
    rw [ofFindings_append_singleton, merge]
    split
    · rw [get?_foldl_addUsage_of_not_isName _ _ _ other, ih]
    · exact ih

/-- A merged record has its key as its name, the first occurrences of what the definitions of
the key render, and no parents. -/
theorem eq_of_get?_ofFindings {all : List Findings} {key : String} {record : Record}
    (found : (ofFindings all).get? key = some record) :
    ∃ filePath, record =
      ⟨key, filePath, firstOccurrences (childrenOf (countedUsages all) key), []⟩ := by
  cases component : isName key with
  | false => simp [get?_ofFindings_of_not_isName all component] at found
  | true =>
    rw [get?_ofFindings all component, Option.map_eq_some_iff] at found
    obtain ⟨last, _, rfl⟩ := found
    exact ⟨last.relPath, rfl⟩

/-- Failed files count for nothing. -/
theorem ofFindings_filter_ok (all : List Findings) :
    ofFindings (all.filter (·.ok)) = ofFindings all := by
  rw [ofFindings, ofFindings, List.foldl_filter]
  congr 1
  funext catalog findings
  cases ok : findings.ok with
  | false => simp [merge_of_failed catalog ok]
  | true => simp

/-- A key of the merged catalog is a component's name, and some successful file defines it. -/
theorem mem_keys_ofFindings {all : List Findings} {name : String} :
    name ∈ (ofFindings all).keys ↔
      isName name = true ∧ ∃ usage ∈ countedUsages all, usage.name = name := by
  rw [keys_ofFindings, mem_firstOccurrences, List.mem_filter, List.mem_map, and_comm]

/-- The merged catalog, told by the findings alone. Its keys are the component names that
successful files define, as they first occur. The record of each has the path of the last
successful file that defines it and the first occurrences of what all its definitions
render, and no parents. So failed files can be left out, and a name that is only rendered is
no key.

The keys and the look-ups come from one induction on the files each. A key has a counted
usage, so there is a last file that defines it, which splits the row of files. -/
theorem ofFindings_policies (all : List Findings) :
    (ofFindings all).keys = (((countedUsages all).map (·.name)).filter isName).eraseDups ∧
    (∀ name ∈ (ofFindings all).keys, ∃ before last after,
      all = before ++ last :: after ∧ last.ok = true ∧ last.defines name = true ∧
      (∀ later ∈ after, later.ok = true → later.defines name = false) ∧
      (ofFindings all).get? name =
        some ⟨name, last.relPath, (childrenOf (countedUsages all) name).eraseDups, []⟩) ∧
    ofFindings (all.filter (·.ok)) = ofFindings all ∧
    ∀ child, (∀ usage ∈ countedUsages all, usage.name ≠ child) →
      child ∉ (ofFindings all).keys := by
  refine ⟨?_, ?_, ofFindings_filter_ok all, ?_⟩
  · rw [keys_ofFindings, firstOccurrences_eq_eraseDups]
  · intro name present
    obtain ⟨component, usage, counted, named⟩ := mem_keys_ofFindings.mp present
    have defined : lastDefining? all name ≠ none := by
      intro none
      exact lastDefining?_eq_none_iff.mp none usage counted named
    obtain ⟨last, found⟩ := Option.ne_none_iff_exists'.mp defined
    obtain ⟨⟨ok, defines⟩, before, after, split, later⟩ := lastDefining?_eq_some_iff.mp found
    refine ⟨before, last, after, split, ok, defines, later, ?_⟩
    rw [get?_ofFindings all component, found, Option.map_some, firstOccurrences_eq_eraseDups]
  · intro child undefined present
    obtain ⟨_, usage, counted, named⟩ := mem_keys_ofFindings.mp present
    exact undefined usage counted named

/-- One file fixes a component's place and a later one its path; a failed file is ignored. -/
example :
    (ofFindings [⟨"a", true, [⟨"Card", ["Icon"]⟩, ⟨"Menu", []⟩]⟩, ⟨"b", false, [⟨"Menu", []⟩]⟩,
      ⟨"c", true, [⟨"Card", ["Menu", "Icon"]⟩, ⟨"help", []⟩]⟩]).entries =
      [("Card", ⟨"Card", "c", ["Icon", "Menu"], []⟩), ("Menu", ⟨"Menu", "a", [], []⟩)] := by
  decide

end Catalog

end ComponentAtlas.Component
