import ComponentAtlas.Proofs.Filling

/-!
# The stored form of a tree

A tree can be stored without recursion and without ancestors that wait for their children. The
object of the root is made first, with an empty list of children, and waits together with its
node. The node that came last is taken off the row: for each of its children, in order, an object
is made, the number of that object is appended to the list of the parent's object, and the child
waits in turn. So objects are handed on while they are still incomplete, and the children of a
node are completed from the last one to the first.

`Tree.writeOut` is this loop over numbered drafts. Its law says that every object that waits is
completed to the stored form of its node, and that no other object changes. The stored form then
says all that a tree does, but for notes that say nothing.
-/

namespace ComponentAtlas.Component

/-! ## Objects and drafts -/

namespace Tree

/-- The draft of a node's object: what is known before its children are. -/
def draft (tree : Tree) : Draft := ⟨tree.name, tree.filePath, tree.remark?, []⟩

/-- What a node's object holds besides its children. -/
theorem toObject_eq (tree : Tree) (children : List Json) :
    tree.toObject children = .object
      ([("name", .str tree.name), ("filePath", .str tree.filePath), ("children", .list children)] ++
        tree.remark?.toList.map fun remark => ("note", .str remark)) := by
  rw [toObject]
  cases tree.remark? <;> rfl

/-- Trees are stored one by one. -/
theorem toJsons_eq_map (trees : List Tree) : toJson.toJsons trees = trees.map toJson := by
  induction trees with
  | nil => rfl
  | cons tree rest ih => rw [toJson.toJsons, ih, List.map_cons]

/-- The stored form by recursion on the children. -/
theorem toJson_eq_toObject (tree : Tree) :
    tree.toJson = tree.toObject (tree.children.map toJson) := by
  rw [toJson_eq, toJsons_eq_map]

end Tree

/-- The object that a draft is, given its children. -/
def Draft.toObject (draft : Draft) (children : List Json) : Json :=
  Tree.toObject ⟨draft.name, draft.filePath, draft.note, []⟩ children

/-- The draft of a node is the node's object, whatever numbers its children have. -/
theorem Tree.toObject_draft (tree : Tree) (numbers : List Nat) (children : List Json) :
    Draft.toObject { tree.draft with children := numbers } children = tree.toObject children := by
  have again : (⟨tree.name, tree.filePath, tree.remark?, []⟩ : Tree).remark? = tree.remark? := by
    simp [remark?, Option.filter_filter]
  rw [Draft.toObject, toObject_eq, toObject_eq]
  simp only [draft, again]

/-- The value that an object stands for. Children were added after their parent, so their numbers
are greater. -/
def Drafts.json? (drafts : Drafts) (number : Nat) : Option Json :=
  match _found : drafts[number]? with
  | none => none
  | some draft => some (draft.toObject (draft.children.filterMap fun child =>
      if _later : number < child then drafts.json? child else none))
termination_by drafts.length - number
decreasing_by
  have listed : number < drafts.length := (List.getElem?_eq_some_iff.mp _found).1
  omega

/-- An object stands for its fields, with the values that its children stand for. -/
theorem Drafts.json?_of_later {drafts : Drafts} {number : Nat} {draft : Draft}
    (found : drafts[number]? = some draft) (later : ∀ child ∈ draft.children, number < child) :
    drafts.json? number = some (draft.toObject (draft.children.filterMap drafts.json?)) := by
  rw [json?]
  split
  case h_1 missing => cases missing.symm.trans found
  case h_2 stored again =>
    obtain rfl := Option.some.inj (again.symm.trans found)
    congr 2
    apply List.filterMap_congr
    intro child member
    rw [dif_pos (later child member)]

/-! ## The loop -/

namespace Tree

/-- Makes the object of a child, appends it to the list of an object, and lets the child wait. -/
def enter (parent : Nat) (state : Drafts × List (Tree × Nat)) (child : Tree) :
    Drafts × List (Tree × Nat) :=
  (state.1.adopt parent child.draft, (child, state.1.length) :: state.2)

/-- Enters the children of a node, in order. -/
def enterAll (parent : Nat) (children : List Tree) (state : Drafts × List (Tree × Nat)) :
    Drafts × List (Tree × Nat) :=
  children.foldl (enter parent) state

/-- Entering children adds their nodes to those that wait. -/
theorem sizes_enterAll (parent : Nat) (children : List Tree)
    (state : Drafts × List (Tree × Nat)) :
    sizes ((enterAll parent children state).2.map Prod.fst) =
      sizes children + sizes (state.2.map Prod.fst) := by
  induction children generalizing state with
  | nil => simp [enterAll]
  | cons child rest ih =>
    rw [enterAll, List.foldl_cons, ← enterAll, ih]
    simp only [enter, List.map_cons, sizes_cons]
    omega

/-- Completes the objects that wait. The first is taken off, and its children come to the front,
the last of them first. -/
def writeOut (drafts : Drafts) : List (Tree × Nat) → Drafts
  | [] => drafts
  | (tree, number) :: waiting =>
    let entered := enterAll number tree.children (drafts, waiting)
    writeOut entered.1 entered.2
termination_by waiting => sizes (waiting.map Prod.fst)
decreasing_by
  have whole := size_eq tree
  simp only [sizes_enterAll, List.map_cons, sizes_cons]
  omega

/-- The stored form of a tree, completed in place. -/
def serializeInPlace? (tree : Tree) : Option Json :=
  (writeOut [tree.draft] [(tree, 0)]).json? 0

/-! ## Entering the children of a node -/

/-- What has become of drafts when children were entered below one of them: it holds on to as many
further numbers, under which the drafts of the children stand, in order, and the last child waits
first. -/
structure Entered (parent : Nat) (drafts : Drafts) (waiting : List (Tree × Nat))
    (children : List Tree) (state : Drafts × List (Tree × Nat)) : Prop where
  length : state.1.length = drafts.length + children.length
  upper : ∀ draft, drafts[parent]? = some draft → state.1[parent]? =
    some { draft with
      children := draft.children ++ List.range' drafts.length children.length }
  added : ∀ pair ∈ children.zipIdx drafts.length, state.1[pair.2]? = some pair.1.draft
  kept : ∀ other < drafts.length, other ≠ parent → state.1[other]? = drafts[other]?
  waiting : state.2 = (children.zipIdx drafts.length).reverse ++ waiting

/-- Entering children one by one does what is said of them together. The induction is on the
children. -/
theorem entered_enterAll {parent : Nat} {drafts : Drafts} (listed : parent < drafts.length)
    (waiting : List (Tree × Nat)) (children : List Tree) :
    Entered parent drafts waiting children (enterAll parent children (drafts, waiting)) := by
  induction children generalizing drafts waiting with
  | nil =>
    refine ⟨rfl, ?_, List.forall_mem_nil _, fun _ _ _ => rfl, rfl⟩
    intro draft found
    simpa [enterAll] using found
  | cons child rest ih =>
    have longer : parent < (drafts.adopt parent child.draft).length := by simp; omega
    have later := ih longer ((child, drafts.length) :: waiting)
    rw [enterAll, List.foldl_cons, ← enterAll, enter]
    constructor
    case length => rw [later.length, Drafts.length_adopt, List.length_cons]; omega
    case upper =>
      intro draft found
      rw [later.upper _ (Drafts.getElem?_adopt_parent found _), Drafts.length_adopt,
        List.append_assoc, List.length_cons, List.range'_succ, List.singleton_append]
    case added =>
      rw [List.zipIdx_cons, List.forall_mem_cons]
      constructor
      · rw [later.kept _ (by simp) (by omega), Drafts.getElem?_adopt_length]
      · rw [← Drafts.length_adopt drafts parent child.draft]
        exact later.added
    case kept =>
      intro other before different
      rw [later.kept other (by simp; omega) different, Drafts.getElem?_adopt_of_ne before different]
    case waiting =>
      rw [later.waiting, Drafts.length_adopt, List.zipIdx_cons, List.reverse_cons,
        List.append_assoc, List.singleton_append]

/-! ## What the loop completes -/

/-- What waits are different objects, each with the draft of its node. -/
structure Prepared (drafts : Drafts) (waiting : List (Tree × Nat)) : Prop where
  distinct : (waiting.map Prod.snd).Nodup
  drafted : ∀ pair ∈ waiting, drafts[pair.2]? = some pair.1.draft

/-- What the loop makes of drafts. An object that waits is completed to the stored form of its
node, and one that does not wait stays as it is. -/
structure Completes (drafts final : Drafts) (waiting : List (Tree × Nat)) : Prop where
  stored : ∀ pair ∈ waiting, final.json? pair.2 = some pair.1.toJson
  kept : ∀ number < drafts.length, number ∉ waiting.map Prod.snd → final[number]? = drafts[number]?

section

variable {drafts final : Drafts} {tree : Tree} {number : Nat} {waiting : List (Tree × Nat)}
  {state : Drafts × List (Tree × Nat)}

/-- What waits is there. -/
theorem Prepared.listed (ready : Prepared drafts waiting) {pair : Tree × Nat}
    (member : pair ∈ waiting) : pair.2 < drafts.length :=
  (List.getElem?_eq_some_iff.mp (ready.drafted pair member)).1

/-- The numbers that wait once children are entered: theirs, and those that waited. -/
theorem Entered.mem_numbers {children : List Tree}
    (entered : Entered number drafts waiting children state) (other : Nat) :
    other ∈ state.2.map Prod.snd ↔
      (drafts.length ≤ other ∧ other < drafts.length + children.length) ∨
        other ∈ waiting.map Prod.snd := by
  rw [entered.waiting, List.map_append, List.mem_append, List.map_reverse, List.mem_reverse,
    List.zipIdx_map_snd, List.mem_range'_1]

/-- When its children are entered, a node has what it waited for. -/
theorem Prepared.step (ready : Prepared drafts ((tree, number) :: waiting))
    (entered : Entered number drafts waiting tree.children state) :
    Prepared state.1 state.2 := by
  obtain ⟨alone, distinct⟩ := List.nodup_cons.mp ready.distinct
  constructor
  case distinct =>
    rw [entered.waiting, List.map_append, List.map_reverse, List.zipIdx_map_snd]
    refine List.nodup_append.mpr ⟨List.nodup_reverse.mpr List.nodup_range', distinct, ?_⟩
    rintro added isNew old isOld rfl
    obtain ⟨pair, member, rfl⟩ := List.mem_map.mp isOld
    have before := ready.listed (List.mem_cons_of_mem _ member)
    have after := List.mem_range'_1.mp (List.mem_reverse.mp isNew)
    exact Nat.not_lt.mpr after.1 before
  case drafted =>
    rw [entered.waiting]
    intro pair member
    rcases List.mem_append.mp member with isNew | isOld
    · exact entered.added pair (List.mem_reverse.mp isNew)
    · have before := ready.listed (List.mem_cons_of_mem _ isOld)
      have other : pair.2 ≠ number := by
        intro same
        exact alone (List.mem_map.mpr ⟨pair, isOld, same⟩)
      rw [entered.kept _ before other, ready.drafted _ (List.mem_cons_of_mem _ isOld)]

/-- Read by their numbers, the children that were entered are stored in order. -/
theorem Completes.children {children : List Tree}
    (entered : Entered number drafts waiting children state)
    (completes : Completes state.1 final state.2) :
    (List.range' drafts.length children.length).filterMap final.json? = children.map toJson := by
  have stored : ∀ pair ∈ children.zipIdx drafts.length,
      final.json? pair.2 = some pair.1.toJson := by
    intro pair member
    apply completes.stored
    rw [entered.waiting]
    exact List.mem_append_left _ (List.mem_reverse.mpr member)
  rw [← List.zipIdx_map_snd drafts.length, List.filterMap_map]
  calc (children.zipIdx drafts.length).filterMap (final.json? ∘ Prod.snd)
      = (children.zipIdx drafts.length).filterMap (some ∘ toJson ∘ Prod.fst) :=
        List.filterMap_congr stored
    _ = children.map toJson := by
        rw [List.filterMap_eq_map, ← List.map_map, List.zipIdx_map_fst]

/-- A node is completed once its children are: its object does not wait any more, and it holds on
to theirs, in order. -/
theorem Completes.first (ready : Prepared drafts ((tree, number) :: waiting))
    (entered : Entered number drafts waiting tree.children state)
    (completes : Completes state.1 final state.2) : final.json? number = some tree.toJson := by
  have listed : number < drafts.length := ready.listed List.mem_cons_self
  have settled : number ∉ state.2.map Prod.snd := by
    rw [entered.mem_numbers]
    rintro (isNew | isOld)
    · omega
    · exact (List.nodup_cons.mp ready.distinct).1 isOld
  have found : final[number]? = some { tree.draft with
      children := List.range' drafts.length tree.children.length } := by
    rw [completes.kept number (by rw [entered.length]; omega) settled]
    exact entered.upper _ (ready.drafted _ List.mem_cons_self)
  rw [Drafts.json?_of_later found, toObject_draft, toJson_eq_toObject, completes.children entered]
  intro child member
  exact Nat.lt_of_lt_of_le listed (List.mem_range'_1.mp member).1

/-- What is completed of the children and of what waited besides is completed of the whole. -/
theorem Completes.step (ready : Prepared drafts ((tree, number) :: waiting))
    (entered : Entered number drafts waiting tree.children state)
    (completes : Completes state.1 final state.2) :
    Completes drafts final ((tree, number) :: waiting) := by
  constructor
  case stored =>
    refine List.forall_mem_cons.mpr ⟨completes.first ready entered, ?_⟩
    intro pair member
    apply completes.stored
    rw [entered.waiting]
    exact List.mem_append_right _ member
  case kept =>
    intro other before absent
    obtain ⟨different, elsewhere⟩ := List.ne_and_not_mem_of_not_mem_cons absent
    rw [completes.kept other (by rw [entered.length]; omega), entered.kept other before different]
    rw [entered.mem_numbers]
    rintro (isNew | isOld)
    · omega
    · exact elsewhere isOld

end

/-- The loop completes what waits, and nothing else.

Induction on the loop. Once the children of the first node are entered, what waits is prepared
again, and the object of the node does not wait any more: it stays as it is while, by induction,
the objects of its children are completed. -/
theorem completes_writeOut (drafts : Drafts) (waiting : List (Tree × Nat))
    (ready : Prepared drafts waiting) : Completes drafts (writeOut drafts waiting) waiting := by
  fun_induction writeOut drafts waiting with
  | case1 drafts => exact ⟨List.forall_mem_nil _, fun _ _ _ => rfl⟩
  | case2 drafts tree number waiting entered ih =>
    have listed : number < drafts.length := ready.listed List.mem_cons_self
    have law := entered_enterAll listed waiting tree.children
    exact (ih (ready.step law)).step ready law

/-- Completed in place, a tree is stored as it is by recursion. -/
theorem serializeInPlace?_eq_toJson (tree : Tree) : tree.serializeInPlace? = some tree.toJson := by
  have ready : Prepared [tree.draft] [(tree, 0)] := ⟨List.nodup_singleton _, by simp⟩
  exact (completes_writeOut _ _ ready).stored _ List.mem_cons_self

end Tree

end ComponentAtlas.Component

/-! ## Equal data -/

namespace ComponentAtlas.Json

/-- The values are equal, wherever the keys of objects stand in them. -/
inductive SameData : Json → Json → Prop
  | same (value : Json) : SameData value value
  | list {front back : List Json} : List.Forall₂ SameData front back →
      SameData (.list front) (.list back)
  | object {front back : Fields} :
      (∀ key, Option.Rel SameData (Keyed.get? front key) (Keyed.get? back key)) →
      SameData (.object front) (.object back)

namespace SameData

/-- A text is equal to no other. -/
theorem eq_of_str {front back : String} (same : SameData (.str front) (.str back)) :
    front = back := by
  cases same
  rfl

/-- A text is told by its value, and so is its absence. -/
theorem eq_of_rel_map_str {front back : Option String}
    (same : Option.Rel SameData (front.map .str) (back.map .str)) : front = back := by
  cases front with
  | none =>
    cases back with
    | none => rfl
    | some => cases same
  | some text =>
    cases back with
    | none => cases same
    | some other => rw [(Option.rel_some_some.mp same).eq_of_str]

/-- Equal lists have equal items, one by one. -/
theorem forall₂_of_list {front back : List Json} (same : SameData (.list front) (.list back)) :
    List.Forall₂ SameData front back := by
  cases same with
  | same => exact List.forall₂_same.mpr fun value _ => .same value
  | list items => exact items

/-- Equal objects have equal values under each key, or none both. -/
theorem rel_get? {front back : Fields} (same : SameData (.object front) (.object back))
    (key : String) : Option.Rel SameData (Keyed.get? front key) (Keyed.get? back key) := by
  cases same with
  | same =>
    cases Keyed.get? front key with
    | none => exact .none
    | some value => exact .some (.same value)
  | object fields => exact fields key

/-- What equal objects have under a key is equal. -/
theorem of_get? {front back : Fields} {key : String} {value other : Json}
    (same : SameData (.object front) (.object back)) (here : Keyed.get? front key = some value)
    (there : Keyed.get? back key = some other) : SameData value other := by
  have related := same.rel_get? key
  rwa [here, there, Option.rel_some_some] at related

end SameData

/-- The number of objects in a value, with the value itself. -/
def objects : Json → Nat
  | .list items => objectsIn items
  | .object fields => 1 + objectsUnder fields
  | _ => 0
where
  /-- The number of objects in the items of a list. -/
  objectsIn : List Json → Nat
    | [] => 0
    | item :: rest => objects item + objectsIn rest
  /-- The number of objects under the keys of an object. -/
  objectsUnder : List (String × Json) → Nat
    | [] => 0
    | (_, value) :: rest => objects value + objectsUnder rest

end ComponentAtlas.Json

/-! ## What the stored form says -/

namespace ComponentAtlas.Component.Tree

/-- What holds of a tree if it holds of its children holds of every tree. -/
theorem induction_children {motive : Tree → Prop}
    (node : ∀ tree : Tree, (∀ child ∈ tree.children, motive child) → motive tree) :
    ∀ tree, motive tree := by
  intro tree
  induction bound : tree.size using Nat.strong_induction_on generalizing tree with
  | _ bound ih =>
    apply node
    intro child member
    obtain ⟨front, back, split⟩ := List.append_of_mem member
    have whole := size_eq tree
    rw [split, sizes_append, sizes_cons] at whole
    exact ih child.size (by omega) child rfl

/-- The tree without notes that say nothing. -/
def plain : Tree → Tree
  | tree@⟨name, filePath, _, children⟩ => ⟨name, filePath, tree.remark?, plains children⟩
where
  /-- The trees without notes that say nothing. -/
  plains : List Tree → List Tree
    | [] => []
    | child :: rest => plain child :: plains rest

/-- Notes that say nothing are dropped tree by tree. -/
theorem plains_eq_map (trees : List Tree) : plain.plains trees = trees.map plain := by
  induction trees with
  | nil => rfl
  | cons tree rest ih => rw [plain.plains, ih, List.map_cons]

/-- Of a tree they are dropped at its root and below it. -/
theorem plain_eq (tree : Tree) :
    tree.plain = ⟨tree.name, tree.filePath, tree.remark?, tree.children.map plain⟩ := by
  cases tree
  rw [plain, plains_eq_map]

/-- Notes that say nothing are not stored. -/
theorem toJson_plain (tree : Tree) : tree.plain.toJson = tree.toJson := by
  induction tree using induction_children with
  | node tree ih =>
    have below : (tree.children.map plain).map toJson = tree.children.map toJson := by
      rw [List.map_map]
      exact List.map_congr_left ih
    rw [toJson_eq_toObject, toJson_eq_toObject tree, plain_eq, below]
    exact toObject_draft tree [] _

/-- What is stored under each key of a node's object, besides its children. -/
theorem get?_fields (tree : Tree) (children : List Json) :
    let fields : Json.Fields :=
      [("name", .str tree.name), ("filePath", .str tree.filePath), ("children", .list children)] ++
        tree.remark?.toList.map fun remark => ("note", .str remark)
    fields.get? "name" = some (.str tree.name) ∧
      fields.get? "filePath" = some (.str tree.filePath) ∧
      fields.get? "children" = some (.list children) ∧
      fields.get? "note" = tree.remark?.map .str := by
  cases tree.remark? <;> simp [Keyed.get?_cons]

/-- What is stored of two trees tells them apart, but for notes that say nothing.

Induction on the first tree. The values under the four keys tell the names, the paths, the notes
and, by induction, the children. -/
theorem plain_eq_of_sameData {left right : Tree} (same : Json.SameData left.toJson right.toJson) :
    left.plain = right.plain := by
  induction left using induction_children generalizing right with
  | node left ih =>
    rw [toJson_eq_toObject, toJson_eq_toObject, toObject_eq, toObject_eq] at same
    obtain ⟨name, filePath, children, note⟩ := left.get?_fields (left.children.map toJson)
    obtain ⟨name', filePath', children', note'⟩ := right.get?_fields (right.children.map toJson)
    have names := (same.of_get? name name').eq_of_str
    have paths := (same.of_get? filePath filePath').eq_of_str
    have lists := (same.of_get? children children').forall₂_of_list
    have notes := same.rel_get? "note"
    rw [note, note'] at notes
    have remarks := Json.SameData.eq_of_rel_map_str notes
    have below : List.Forall₂ (fun a b : Tree => a.plain = b.plain)
        left.children right.children := by
      rw [List.forall₂_map_left_iff, List.forall₂_map_right_iff] at lists
      refine ((List.forall₂_and_left _ _).mpr ⟨fun _ => ih _, lists⟩).imp ?_
      intro a b both
      exact both.1 both.2
    have plains : left.children.map plain = right.children.map plain := by
      rw [← List.forall₂_eq_eq_eq, List.forall₂_map_left_iff, List.forall₂_map_right_iff]
      exact below
    rw [plain_eq, plain_eq, names, paths, remarks, plains]

/-- The stored forms of trees have as many objects as the trees have nodes, if each has. -/
theorem objectsIn_map_toJson {trees : List Tree}
    (each : ∀ tree ∈ trees, tree.toJson.objects = tree.size) :
    Json.objects.objectsIn (trees.map toJson) = sizes trees := by
  induction trees with
  | nil => rfl
  | cons tree rest ih =>
    obtain ⟨first, others⟩ := List.forall_mem_cons.mp each
    rw [List.map_cons, Json.objects.objectsIn, first, ih others, sizes_cons]

/-- As many objects are stored as there are nodes. -/
theorem objects_toJson (tree : Tree) : tree.toJson.objects = tree.size := by
  induction tree using induction_children with
  | node tree ih =>
    have below := objectsIn_map_toJson ih
    rw [toJson_eq_toObject, toObject_eq, size_eq]
    cases tree.remark? <;> simp [Json.objects, Json.objects.objectsUnder, below]

/-- Trees are stored by recursion, and nothing but notes that say nothing is lost. The object of a
node is completed in place to what the recursion gives: the name, the path, what is stored of the
children, in order, and the note, if there is one that says something. What is stored of two trees
is equal, wherever keys stand, exactly if the trees are equal without notes that say nothing. And
there are as many objects, however deep, as there are nodes. -/
theorem stored_form_recursive :
    (∀ tree : Tree, tree.serializeInPlace? = some tree.serialize) ∧
      (∀ tree : Tree, tree.serialize = .object
        ([("name", .str tree.name), ("filePath", .str tree.filePath),
            ("children", .list (tree.children.map serialize))] ++
          (tree.note.filter (· ≠ "")).toList.map fun note => ("note", .str note))) ∧
      (∀ left right : Tree,
        Json.SameData left.serialize right.serialize ↔ left.plain = right.plain) ∧
      ∀ tree : Tree, tree.serialize.objects = tree.size := by
  have recursive : serialize = toJson := funext serialize_eq_toJson
  rw [recursive]
  refine ⟨serializeInPlace?_eq_toJson, ?_, ?_, objects_toJson⟩
  · intro tree
    have said : tree.remark? = tree.note.filter (· ≠ "") := by
      rw [remark?]
      congr 1
      funext note
      rw [Bool.eq_iff_iff]
      simp
    rw [toJson_eq_toObject, toObject_eq, said]
  · intro left right
    refine ⟨plain_eq_of_sameData, ?_⟩
    intro same
    rw [← toJson_plain left, ← toJson_plain right, same]
    exact .same _

end ComponentAtlas.Component.Tree
