import ComponentAtlas.Proofs.Walks

/-!
# Expansion in place

A component can be expanded without a row of ancestors that wait for their trees. Its node is made
first, without children, and each node that still has to be filled waits in a row. The nearest of
them is filled: a child becomes a node of its own, with a number that its parent holds on to, and
waits in turn unless it is an ancestor. What waits last is filled first, so nodes are not filled
in the order in which they stand in the tree. That does not matter: where a child stands is told
by its number in the node above it.

`Catalog.fill` is this loop over numbered drafts of nodes. Its law says what becomes of a draft
that waits, and that every other draft stays as it is. Read from the root, the drafts give the
tree that the recursion on possible ancestors gives, as does the loop with growing ancestors.
-/

namespace ComponentAtlas.Component

/-- A node whose children are told by their numbers. -/
structure Draft where
  name : String
  filePath : String
  note : Option String
  children : List Nat
  deriving Repr, DecidableEq

/-- Drafts, each under the number of its place. -/
abbrev Drafts := List Draft

namespace Drafts

/-- Adds a draft, as the last child of another one. -/
def adopt (drafts : Drafts) (parent : Nat) (draft : Draft) : Drafts :=
  drafts.modify parent (fun upper => { upper with children := upper.children ++ [drafts.length] })
    ++ [draft]

/-- A draft that is adopted is one more. -/
@[simp] theorem length_adopt (drafts : Drafts) (parent : Nat) (draft : Draft) :
    (drafts.adopt parent draft).length = drafts.length + 1 := by
  simp [adopt]

/-- The new draft has the next number. -/
theorem getElem?_adopt_length (drafts : Drafts) (parent : Nat) (draft : Draft) :
    (drafts.adopt parent draft)[drafts.length]? = some draft := by
  simp [adopt]

/-- The parent holds on to that number. -/
theorem getElem?_adopt_parent {drafts : Drafts} {parent : Nat} {upper : Draft}
    (found : drafts[parent]? = some upper) (draft : Draft) :
    (drafts.adopt parent draft)[parent]? =
      some { upper with children := upper.children ++ [drafts.length] } := by
  have listed : parent < drafts.length := (List.getElem?_eq_some_iff.mp found).1
  rw [adopt, List.getElem?_append_left (by simpa using listed), List.getElem?_modify_eq, found]
  rfl

/-- No other draft is touched. -/
theorem getElem?_adopt_of_ne {drafts : Drafts} {parent number : Nat}
    (listed : number < drafts.length) (other : number ≠ parent) (draft : Draft) :
    (drafts.adopt parent draft)[number]? = drafts[number]? := by
  rw [adopt, List.getElem?_append_left (by simpa using listed)]
  exact List.getElem?_modify_ne _ _ (Ne.symm other)

/-- The tree that a draft stands for. Children were added after their parent, so their numbers are
greater. -/
def tree? (drafts : Drafts) (number : Nat) : Option Tree :=
  match _found : drafts[number]? with
  | none => none
  | some draft => some {
      name := draft.name
      filePath := draft.filePath
      note := draft.note
      children := draft.children.filterMap fun child =>
        if _later : number < child then drafts.tree? child else none }
termination_by drafts.length - number
decreasing_by
  have listed : number < drafts.length := (List.getElem?_eq_some_iff.mp _found).1
  omega

/-- A draft stands for its node with the trees that its children stand for. -/
theorem tree?_of_later {drafts : Drafts} {number : Nat} {draft : Draft}
    (found : drafts[number]? = some draft) (later : ∀ child ∈ draft.children, number < child) :
    drafts.tree? number =
      some ⟨draft.name, draft.filePath, draft.note, draft.children.filterMap drafts.tree?⟩ := by
  rw [tree?]
  split
  case h_1 missing => cases missing.symm.trans found
  case h_2 stored again =>
    obtain rfl := Option.some.inj (again.symm.trans found)
    congr 2
    apply List.filterMap_congr
    intro child member
    rw [dif_pos (later child member)]

end Drafts

namespace Catalog

/-! ## The loop -/

/-- A child that is no component costs one step. -/
theorem cost_of_absent {catalog : Catalog} {child : String} (absent : catalog.get? child = none)
    (ancestors : List String) : catalog.cost ancestors child = 1 := by
  rw [cost]
  split
  case h_1 => rfl
  case h_2 found => cases found.symm.trans absent

/-- So does a child that is its own ancestor. -/
theorem cost_of_mem {catalog : Catalog} {ancestors : List String} {child : String}
    (known : child ∈ ancestors) : catalog.cost ancestors child = 1 := by
  rw [cost]
  split
  case h_1 => rfl
  case h_2 => rw [dif_pos known]

/-- A child that is expanded costs more than its own children. -/
theorem cost_of_not_mem {catalog : Catalog} {ancestors : List String} {child : String}
    {record : Record} (found : catalog.get? child = some record) (fresh : child ∉ ancestors) :
    catalog.cost ancestors child =
      2 + total (record.children.map (catalog.cost (child :: ancestors))) := by
  rw [cost]
  split
  case h_1 absent => cases absent.symm.trans found
  case h_2 inner again =>
    obtain rfl := Option.some.inj (again.symm.trans found)
    rw [dif_neg fresh]

/-- A draft that has to be filled with children. Its ancestors include itself. -/
structure Unfilled where
  number : Nat
  ancestors : List String
  pending : List String

/-- The steps that it takes to fill a draft and what comes below it. -/
def Unfilled.cost (catalog : Catalog) (node : Unfilled) : Nat :=
  1 + total (node.pending.map (catalog.cost node.ancestors))

/-- Fills drafts that wait. The first is filled to the end, child by child, and a child that is to
be filled itself comes next, before all that waited already. -/
def fill (catalog : Catalog) (drafts : Drafts) : List Unfilled → Drafts
  | [] => drafts
  | ⟨_, _, []⟩ :: waiting => catalog.fill drafts waiting
  | ⟨number, ancestors, child :: later⟩ :: waiting =>
    match _found : catalog.get? child with
    | none => catalog.fill drafts (⟨number, ancestors, later⟩ :: waiting)
    | some inner =>
      if _known : child ∈ ancestors then
        catalog.fill (drafts.adopt number ⟨child, inner.filePath, some cycleNote, []⟩)
          (⟨number, ancestors, later⟩ :: waiting)
      else
        catalog.fill (drafts.adopt number ⟨child, inner.filePath, none, []⟩)
          (⟨number, ancestors, later⟩ :: ⟨drafts.length, child :: ancestors, inner.children⟩ ::
            waiting)
termination_by waiting => total (waiting.map (Unfilled.cost catalog))
decreasing_by
  · simp only [Unfilled.cost, List.map_cons, total_cons]; omega
  · have step := cost_of_absent _found ancestors
    simp only [Unfilled.cost, List.map_cons, total_cons]; omega
  · have step : catalog.cost ancestors child = 1 := cost_of_mem _known
    simp only [Unfilled.cost, List.map_cons, total_cons]; omega
  · have step := cost_of_not_mem _found _known
    simp only [Unfilled.cost, List.map_cons, total_cons]; omega

/-- The expansion of a component in place, if the catalog holds it. -/
def expandInPlace? (catalog : Catalog) (name : String) : Option Tree :=
  (catalog.get? name).bind fun record =>
    Drafts.tree? (catalog.fill [⟨name, record.filePath, none, []⟩] [⟨0, [name], record.children⟩]) 0

/-! ## What the loop fills in -/

/-- A draft has got further children, which stand for given trees. -/
def Extended (filled : Drafts) (number : Nat) (draft : Draft) (trees : List Tree) : Prop :=
  ∃ more, filled[number]? = some { draft with children := draft.children ++ more } ∧
    (∀ child ∈ more, number < child) ∧ more.filterMap filled.tree? = trees

/-- A draft that had no children stands for its node with these trees. -/
theorem Extended.tree? {filled : Drafts} {number : Nat} {name filePath : String}
    {note : Option String} {trees : List Tree}
    (extended : Extended filled number ⟨name, filePath, note, []⟩ trees) :
    filled.tree? number = some ⟨name, filePath, note, trees⟩ := by
  obtain ⟨more, stored, later, rfl⟩ := extended
  exact Drafts.tree?_of_later stored later

/-- One more child comes before the further ones. -/
theorem Extended.cons {filled : Drafts} {number child : Nat} {draft : Draft} {tree : Tree}
    {trees : List Tree} (later : number < child) (stands : filled.tree? child = some tree)
    (extended : Extended filled number { draft with children := draft.children ++ [child] } trees) :
    Extended filled number draft (tree :: trees) := by
  obtain ⟨more, stored, others, rfl⟩ := extended
  refine ⟨child :: more, ?_, List.forall_mem_cons.mpr ⟨later, others⟩, ?_⟩
  · rw [stored, List.append_assoc, List.singleton_append]
  · rw [List.filterMap_cons_some stands]

/-- The drafts that wait are different ones, and all of them are there. -/
structure Waiting (drafts : Drafts) (waiting : List Unfilled) : Prop where
  distinct : (waiting.map Unfilled.number).Nodup
  listed : ∀ node ∈ waiting, node.number < drafts.length

/-- What the loop makes of drafts. One that waits gets the children that the recursion gives its
name below its ancestors, and one that does not wait stays as it is. -/
structure Fills (catalog : Catalog) (drafts filled : Drafts) (waiting : List Unfilled) : Prop where
  extended : ∀ node ∈ waiting, ∀ draft, drafts[node.number]? = some draft →
    Extended filled node.number draft
      (node.pending.filterMap (catalog.expandChild? node.ancestors))
  kept : ∀ number < drafts.length, number ∉ waiting.map Unfilled.number →
    filled[number]? = drafts[number]?

section

variable {catalog : Catalog} {drafts filled : Drafts} {number : Nat} {ancestors : List String}
  {child : String} {later : List String} {waiting : List Unfilled}

/-- The next number belongs to no draft that waits. -/
theorem Waiting.length_not_mem (ready : Waiting drafts waiting) :
    drafts.length ∉ waiting.map Unfilled.number := by
  intro present
  obtain ⟨node, member, same⟩ := List.mem_map.mp present
  exact Nat.ne_of_lt (ready.listed node member) same

/-- What the first draft waits for makes no difference, and there may be one draft more. -/
theorem Waiting.adopt {pending : List String}
    (ready : Waiting drafts (⟨number, ancestors, pending⟩ :: waiting)) (draft : Draft) :
    Waiting (drafts.adopt number draft) (⟨number, ancestors, later⟩ :: waiting) where
  distinct := ready.distinct
  listed := by
    rw [Drafts.length_adopt, List.forall_mem_cons]
    obtain ⟨first, others⟩ := List.forall_mem_cons.mp ready.listed
    exact ⟨Nat.lt_succ_of_lt first, fun node member => Nat.lt_succ_of_lt (others node member)⟩

/-- The draft that is added may wait as well. -/
theorem Waiting.adopt_cons {pending new : List String}
    (ready : Waiting drafts (⟨number, ancestors, pending⟩ :: waiting)) (draft : Draft) :
    Waiting (drafts.adopt number draft)
      (⟨number, ancestors, later⟩ :: ⟨drafts.length, child :: ancestors, new⟩ :: waiting) where
  distinct := by
    obtain ⟨alone, distinct⟩ := List.nodup_cons.mp ready.distinct
    obtain ⟨other, fresh⟩ := List.ne_and_not_mem_of_not_mem_cons ready.length_not_mem
    refine List.nodup_cons.mpr ⟨?_, List.nodup_cons.mpr ⟨fresh, distinct⟩⟩
    exact List.not_mem_cons_of_ne_of_not_mem (Ne.symm other) alone
  listed := by
    have longer : Waiting (drafts.adopt number draft) (⟨number, ancestors, later⟩ :: waiting) :=
      ready.adopt draft
    obtain ⟨first, others⟩ := List.forall_mem_cons.mp longer.listed
    refine List.forall_mem_cons.mpr ⟨first, List.forall_mem_cons.mpr ⟨?_, others⟩⟩
    simp

/-- The loop has filled the first draft that waits. -/
theorem Fills.done (ready : Waiting drafts (⟨number, ancestors, []⟩ :: waiting))
    (fills : Fills catalog drafts filled waiting) :
    Fills catalog drafts filled (⟨number, ancestors, []⟩ :: waiting) where
  extended := by
    rw [List.forall_mem_cons]
    refine ⟨?_, fills.extended⟩
    intro draft found
    have alone : number ∉ waiting.map Unfilled.number := (List.nodup_cons.mp ready.distinct).1
    have listed : number < drafts.length := ready.listed _ List.mem_cons_self
    refine ⟨[], ?_, List.forall_mem_nil _, rfl⟩
    rw [fills.kept number listed alone, found, List.append_nil]
  kept := by
    intro other listed absent
    exact fills.kept other listed (List.not_mem_of_not_mem_cons absent)

/-- A child that becomes nothing is passed over. -/
theorem Fills.skip (dropped : catalog.expandChild? ancestors child = none)
    (fills : Fills catalog drafts filled (⟨number, ancestors, later⟩ :: waiting)) :
    Fills catalog drafts filled (⟨number, ancestors, child :: later⟩ :: waiting) where
  extended := by
    rw [List.forall_mem_cons]
    refine ⟨?_, (List.forall_mem_cons.mp fills.extended).2⟩
    intro draft found
    rw [List.filterMap_cons_none dropped]
    exact fills.extended _ List.mem_cons_self draft found
  kept := fills.kept

/-- A child that becomes a tree is adopted as a new draft, which stands for that tree in the end.
Then what waits besides is filled as before, since it neither is the parent nor was added. -/
theorem Fills.adopt {draft : Draft} {tree : Tree} (added : List Unfilled)
    (ready : Waiting drafts (⟨number, ancestors, child :: later⟩ :: waiting))
    (becomes : catalog.expandChild? ancestors child = some tree)
    (new : ∀ node ∈ added, node.number = drafts.length)
    (fills : Fills catalog (drafts.adopt number draft) filled
      (⟨number, ancestors, later⟩ :: added ++ waiting))
    (stands : filled.tree? drafts.length = some tree) :
    Fills catalog drafts filled (⟨number, ancestors, child :: later⟩ :: waiting) where
  extended := by
    have listed : number < drafts.length := ready.listed _ List.mem_cons_self
    rw [List.forall_mem_cons]
    constructor
    · intro upper found
      rw [List.filterMap_cons_some becomes]
      exact .cons listed stands
        (fills.extended _ List.mem_cons_self _ (Drafts.getElem?_adopt_parent found draft))
    · intro node member upper found
      have other : node.number ≠ number := by
        intro same
        exact (List.nodup_cons.mp ready.distinct).1 (List.mem_map.mpr ⟨node, member, same⟩)
      have there : node.number < drafts.length := ready.listed node (List.mem_cons_of_mem _ member)
      refine fills.extended node (List.mem_append_right _ member) upper ?_
      rw [Drafts.getElem?_adopt_of_ne there other, found]
  kept := by
    intro other listed absent
    have parent : other ≠ number := fun same => absent (same ▸ List.mem_cons_self)
    rw [fills.kept other (by simp; omega), Drafts.getElem?_adopt_of_ne listed parent]
    rw [List.map_append, List.map_cons, List.mem_append, List.mem_cons]
    rintro ((same | inAdded) | waits)
    · exact parent same
    · obtain ⟨node, member, rfl⟩ := List.mem_map.mp inAdded
      exact Nat.ne_of_lt listed (new node member)
    · exact absent (List.mem_cons_of_mem _ waits)

end

/-- The loop fills what waits, and nothing else.

Induction on the loop. A child that is a key becomes a draft with the next number. If it is an
ancestor the draft does not wait, so it stays a leaf. Otherwise it waits with the child's own
children, and by induction it gets those that the recursion gives the child. -/
theorem fills_fill (catalog : Catalog) (drafts : Drafts) (waiting : List Unfilled)
    (ready : Waiting drafts waiting) :
    Fills catalog drafts (catalog.fill drafts waiting) waiting := by
  fun_induction fill catalog drafts waiting with
  | case1 drafts => exact ⟨List.forall_mem_nil _, fun _ _ _ => rfl⟩
  | case2 drafts number ancestors waiting ih =>
    apply Fills.done ready
    apply ih
    exact ⟨(List.nodup_cons.mp ready.distinct).2, (List.forall_mem_cons.mp ready.listed).2⟩
  | case3 drafts number ancestors child later waiting absent ih =>
    apply Fills.skip (by rw [expandChild?, absent, Option.map_none])
    apply ih
    exact ⟨ready.distinct, List.forall_mem_cons.mpr (List.forall_mem_cons.mp ready.listed)⟩
  | case4 drafts number ancestors child later waiting inner found known ih =>
    have fills := ih (ready.adopt _)
    have leaf := fills.kept drafts.length (by simp) ready.length_not_mem
    rw [Drafts.getElem?_adopt_length] at leaf
    refine .adopt [] ready ?_ (List.forall_mem_nil _) fills
      (Drafts.tree?_of_later leaf (List.forall_mem_nil _))
    rw [expandChild?, found, Option.map_some, if_pos known]
    rfl
  | case5 drafts number ancestors child later waiting inner found fresh ih =>
    have fills := ih (ready.adopt_cons _)
    have below := fills.extended ⟨drafts.length, child :: ancestors, inner.children⟩
      (by simp) _ (Drafts.getElem?_adopt_length _ _ _)
    refine .adopt [_] ready ?_ (List.forall_mem_singleton.mpr rfl) fills below.tree?
    rw [expandChild?, found, Option.map_some, if_neg fresh, expandBelow_eq]

/-! ## Both loops are the recursion -/

/-- Filled in place, a component becomes what it becomes below no ancestors. -/
theorem expandInPlace?_eq_expandChild? (catalog : Catalog) (name : String) :
    catalog.expandInPlace? name = catalog.expandChild? [] name := by
  rw [expandInPlace?, expandChild?]
  cases catalog.get? name with
  | none => rfl
  | some record =>
    have ready : Waiting [⟨name, record.filePath, none, []⟩] [⟨0, [name], record.children⟩] :=
      ⟨List.nodup_singleton _, by simp⟩
    have root := (catalog.fills_fill _ _ ready).extended _ List.mem_cons_self _ rfl
    rw [Option.bind_some, root.tree?, Option.map_some, if_neg List.not_mem_nil, expandBelow_eq]

/-- The expansion of a component is that of the recursion on the ancestors, whichever loop finds
it: the one with growing ancestors or the one that fills nodes in place. In the recursion a
component becomes a node with its name, the path of its record and no note. Of the record's
children, in order, those that are no keys are dropped, those that are ancestors become leaves
with the cycle note, and the others are expanded with themselves as one ancestor more. -/
theorem expansion_recursive (catalog : Catalog) :
    (∀ name, catalog.expand? name =
        (catalog.get? name).map fun record => catalog.expandBelow [name] name record) ∧
      (∀ name, catalog.expandInPlace? name = catalog.expand? name) ∧
      ∀ ancestors name record, catalog.expandBelow ancestors name record =
        { name, filePath := record.filePath, note := none
          children := record.children.filterMap fun child =>
            (catalog.get? child).map fun inner =>
              if child ∈ ancestors then ⟨child, inner.filePath, some cycleNote, []⟩
              else catalog.expandBelow (child :: ancestors) child inner } := by
  refine ⟨?_, ?_, expandBelow_eq catalog⟩
  · intro name
    rw [expand?_eq_expandChild?, expandChild?]
    simp
  · intro name
    rw [expandInPlace?_eq_expandChild?, expand?_eq_expandChild?]

end Catalog

end ComponentAtlas.Component
