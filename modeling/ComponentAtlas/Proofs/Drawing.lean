import ComponentAtlas.Component.Rendering

/-!
# The lines of a drawing

A node of a forest is known by its place: the spots of its ancestors in the forest, the outermost
first, and its own spot. A spot is a node among its siblings, so it tells whether siblings are
still to come. The line of a place reads this off its spots and off nothing else.

Drawing goes through pending branches and carries along how far each is indented and whether it is
the last of its siblings. A branch stands for the lines of its node and of everything below it,
and what is pending for their lines in turn. So each step of the loop is one line, and the whole
loop leaves one line for each place, in the order of the ways that lead to them.
-/

namespace ComponentAtlas.Component.Tree

/-! ## Places -/

/-- A node among its siblings: those before it and those after it. -/
structure Spot where
  before : List Tree
  tree : Tree
  after : List Tree

namespace Spot

/-- All siblings, the node included. -/
def siblings (spot : Spot) : List Tree := spot.before ++ spot.tree :: spot.after

/-- What stands in front of a node: the corner is for the last sibling. -/
def corner (spot : Spot) : String := if spot.after = [] then "└── " else "├── "

/-- What stands in front of what is below a node: a bar as long as siblings are to come. -/
def bar (spot : Spot) : String := if spot.after = [] then "    " else "│   "

/-- A node is the last of its siblings if its number is the last one. -/
theorem isLast_iff (spot : Spot) :
    (spot.before.length + 1 == spot.siblings.length) = true ↔ spot.after = [] := by
  simp [siblings]

/-- The connector in front of a node is its corner. -/
theorem connector_eq (spot : Spot) :
    connector (spot.before.length + 1 == spot.siblings.length) = spot.corner := by
  simp only [connector, isLast_iff, corner]

/-- What is below a node is indented by its bar. -/
theorem indentation_eq (spot : Spot) :
    indentation (spot.before.length + 1 == spot.siblings.length) = spot.bar := by
  simp only [indentation, isLast_iff, bar]

end Spot

/-- A node of a forest: the spots of its ancestors there, the outermost first, and its own. -/
structure Place where
  above : List Spot
  spot : Spot

namespace Place

/-- The node that stands at a place. -/
def tree (place : Place) : Tree := place.spot.tree

/-- A place below a node, seen from the siblings of that node. -/
def below (spot : Spot) (place : Place) : Place := { place with above := spot :: place.above }

/-- How many siblings come first, for each ancestor and for the node. -/
def way (place : Place) : List Nat := (place.above ++ [place.spot]).map (·.before.length)

/-- The line of a place. -/
def line (showPaths : Bool) (indent : String) (place : Place) : String :=
  indent ++ String.join (place.above.map Spot.bar) ++ place.spot.corner
    ++ place.tree.label showPaths

/-- The outermost node of a place is one of the trees of the forest, and every other one is a child
of the node above it. -/
inductive StandsIn : List Tree → Place → Prop
  | top (spot : Spot) : StandsIn spot.siblings ⟨[], spot⟩
  | lower (spot : Spot) {place : Place} (inside : StandsIn spot.tree.children place) :
      StandsIn spot.siblings (place.below spot)

/-- The way to a place further down starts with the number of the node above it. -/
theorem way_below (spot : Spot) (place : Place) :
    (place.below spot).way = spot.before.length :: place.way := rfl

/-- The way to a tree of the forest is its number. -/
theorem way_top (spot : Spot) : Place.way ⟨[], spot⟩ = [spot.before.length] := rfl

/-- A tree of the forest has its corner and its label on its line. -/
theorem line_top (showPaths : Bool) (indent : String) (spot : Spot) :
    line showPaths indent ⟨[], spot⟩ = indent ++ spot.corner ++ spot.tree.label showPaths := by
  simp [line, tree]

/-- A place further down is indented by what stands in front of it there. -/
theorem line_below (showPaths : Bool) (indent : String) (spot : Spot) (place : Place) :
    (place.below spot).line showPaths indent = place.line showPaths (indent ++ spot.bar) := by
  simp [line, below, tree, String.append_assoc]

end Place

/-- The places of trees that stand after some of their siblings, each before those below it. -/
def placesAfter (before : List Tree) : List Tree → List Place
  | [] => []
  | tree@⟨_, _, _, children⟩ :: rest =>
    ⟨[], before, tree, rest⟩ :: (placesAfter [] children).map (Place.below ⟨before, tree, rest⟩)
      ++ placesAfter (before ++ [tree]) rest

/-- The places of a forest, in document order. -/
def places (trees : List Tree) : List Place := placesAfter [] trees

/-- The first tree comes before what is below it, and that before the trees after it. -/
theorem placesAfter_cons (before : List Tree) (tree : Tree) (rest : List Tree) :
    placesAfter before (tree :: rest) =
      ⟨[], before, tree, rest⟩ :: (places tree.children).map (Place.below ⟨before, tree, rest⟩)
        ++ placesAfter (before ++ [tree]) rest := by
  cases tree
  rw [placesAfter, places]

/-- A place of trees is that of one of them, or below one of them. -/
theorem mem_placesAfter {before trees : List Tree} {place : Place} :
    place ∈ placesAfter before trees ↔ ∃ spot : Spot, spot.siblings = before ++ trees ∧
      before <+: spot.before ∧
        (place = ⟨[], spot⟩ ∨ ∃ inner ∈ places spot.tree.children, place = inner.below spot) := by
  induction trees generalizing before with
  | nil =>
    rw [placesAfter]
    constructor
    · intro member
      cases member
    · rintro ⟨spot, whole, ⟨_, front⟩, -⟩
      have lengths := congrArg List.length whole
      simp [Spot.siblings, ← front] at lengths
  | cons tree rest ih =>
    rw [placesAfter_cons, List.mem_append, List.mem_cons, List.mem_map, ih]
    constructor
    · rintro ((rfl | ⟨inner, member, rfl⟩) | ⟨spot, whole, front, here⟩)
      · exact ⟨_, rfl, List.prefix_rfl, .inl rfl⟩
      · exact ⟨_, rfl, List.prefix_rfl, .inr ⟨inner, member, rfl⟩⟩
      · exact ⟨spot, by simpa using whole, (List.prefix_append _ _).trans front, here⟩
    · rintro ⟨⟨front, node, after⟩, whole, ⟨between, rfl⟩, here⟩
      have later : between ++ node :: after = tree :: rest := by
        simpa [Spot.siblings] using whole
      cases between with
      | nil =>
        obtain ⟨rfl, rfl⟩ := List.cons_eq_cons.mp later
        rw [List.append_nil] at here
        rcases here with rfl | ⟨inner, member, rfl⟩
        · exact .inl (.inl rfl)
        · exact .inl (.inr ⟨inner, member, rfl⟩)
      | cons first between =>
        obtain ⟨rfl, rfl⟩ := List.cons_eq_cons.mp later
        exact .inr ⟨_, by simp [Spot.siblings], ⟨between, by simp⟩, here⟩

/-- The places of a forest are those that stand in it.

Induction on the ancestors. A place without any is a tree of the forest; any other place is below
one, and there its ancestors are one fewer. -/
theorem mem_places {trees : List Tree} {place : Place} :
    place ∈ places trees ↔ place.StandsIn trees := by
  obtain ⟨above, spot⟩ := place
  induction above generalizing trees with
  | nil =>
    rw [places, mem_placesAfter]
    constructor
    · rintro ⟨_, rfl, -, same | ⟨inner, -, same⟩⟩
      · cases same
        exact .top spot
      · cases same
    · rintro ⟨⟩
      exact ⟨spot, rfl, List.nil_prefix, .inl rfl⟩
  | cons upper above ih =>
    rw [places, mem_placesAfter]
    constructor
    · rintro ⟨_, rfl, -, same | ⟨inner, member, same⟩⟩
      · cases same
      · cases same
        exact .lower upper (ih.mp member)
    · intro stands
      cases stands with
      | lower _ inside => exact ⟨upper, rfl, List.nil_prefix, .inr ⟨_, ih.mpr inside, rfl⟩⟩

/-- The way to a place of trees starts with the number of the tree that it is in. -/
theorem exists_way_of_mem_placesAfter {before trees : List Tree} {place : Place}
    (member : place ∈ placesAfter before trees) :
    ∃ number rest, place.way = number :: rest ∧ before.length ≤ number := by
  obtain ⟨spot, -, front, rfl | ⟨inner, -, rfl⟩⟩ := mem_placesAfter.mp member
  · exact ⟨_, _, rfl, front.length_le⟩
  · exact ⟨_, _, rfl, front.length_le⟩

/-- The ways to the places of trees come in rising order, a way before those that go on from it.

Induction on the trees. How the way to a tree ends, those below it go on, and the trees after it
have more siblings before them. -/
theorem pairwise_way_placesAfter (before trees : List Tree) :
    (placesAfter before trees).Pairwise fun first second => first.way < second.way := by
  fun_induction placesAfter before trees with
  | case1 => exact .nil
  | case2 before name filePath note children rest inside outside =>
    rw [List.pairwise_append, List.pairwise_cons, List.pairwise_map]
    refine ⟨⟨?_, inside.imp ?_⟩, outside, ?_⟩
    · intro place member
      obtain ⟨inner, listed, rfl⟩ := List.mem_map.mp member
      obtain ⟨number, way, start, -⟩ := exists_way_of_mem_placesAfter listed
      rw [Place.way_below, Place.way_top, List.cons_lt_cons_iff, start]
      exact .inr ⟨rfl, List.nil_lt_cons _ _⟩
    · intro first second earlier
      rw [Place.way_below, Place.way_below, List.cons_lt_cons_iff]
      exact .inr ⟨rfl, earlier⟩
    · intro place member later behind
      have here : ∃ way, place.way = before.length :: way := by
        rcases List.mem_cons.mp member with rfl | lower
        · exact ⟨[], rfl⟩
        · obtain ⟨inner, -, rfl⟩ := List.mem_map.mp lower
          exact ⟨inner.way, rfl⟩
      obtain ⟨way, start⟩ := here
      obtain ⟨number, onward, next, farther⟩ := exists_way_of_mem_placesAfter behind
      rw [List.length_append, List.length_singleton] at farther
      rw [start, next, List.cons_lt_cons_iff]
      exact .inl farther

/-- There are as many places as nodes. -/
theorem length_placesAfter (before trees : List Tree) :
    (placesAfter before trees).length = sizes trees := by
  fun_induction placesAfter before trees with
  | case1 => rfl
  | case2 before name filePath note children rest inside outside =>
    have whole : size ⟨name, filePath, note, children⟩ = 1 + sizes children := size_eq _
    rw [List.length_append, List.length_cons, List.length_map, inside, outside, sizes_cons, whole]
    omega

/-! ## The loop -/

variable (showPaths : Bool)

/-- The lines that a pending branch stands for: that of its node, and those below it. -/
def Branch.lines (branch : Branch) : List String :=
  (branch.indent ++ connector branch.last ++ branch.tree.label showPaths) ::
    (places branch.tree.children).map
      (Place.line showPaths (branch.indent ++ indentation branch.last))

/-- The branches of siblings stand for the lines of their places.

Induction on the siblings, some of which come before. The last one is told by its number, which is
that of the siblings before it. -/
theorem flatMap_lines_branches (indent : String) (trees : List Tree) :
    (branches indent trees).flatMap (Branch.lines showPaths) =
      (places trees).map (Place.line showPaths indent) := by
  have numbered : ∀ before rest : List Tree, before ++ rest = trees →
      ((rest.zipIdx before.length).map fun numbered =>
          (⟨numbered.1, indent, numbered.2 + 1 == trees.length⟩ : Branch)).flatMap
            (Branch.lines showPaths) =
        (placesAfter before rest).map (Place.line showPaths indent) := by
    intro before rest whole
    induction rest generalizing before with
    | nil => rw [placesAfter]; rfl
    | cons tree rest ih =>
      let spot : Spot := ⟨before, tree, rest⟩
      have siblings : spot.siblings = trees := whole
      have here : Branch.lines showPaths ⟨tree, indent, before.length + 1 == trees.length⟩ =
          Place.line showPaths indent ⟨[], spot⟩ ::
            ((places tree.children).map (Place.below spot)).map (Place.line showPaths indent) := by
        rw [← siblings, Branch.lines, spot.connector_eq, spot.indentation_eq, Place.line_top,
          List.map_map]
        congr 2
        funext place
        rw [Function.comp_apply, Place.line_below]
      have later := ih (before ++ [tree]) (by simpa using whole)
      rw [List.length_append, List.length_singleton] at later
      rw [List.zipIdx_cons, List.map_cons, List.flatMap_cons, here, later, placesAfter_cons,
        List.map_append, List.map_cons]
  exact numbered [] trees rfl

/-- Drawing pending branches appends the lines that they stand for, in turn.

Each step appends one line, and puts the branches below its node in front of the others. -/
theorem drawBranches_eq (lines : Array String) (pending : List Branch) :
    drawBranches showPaths lines pending = lines ++ pending.flatMap (Branch.lines showPaths) := by
  fun_induction drawBranches showPaths lines pending with
  | case1 lines => simp
  | case2 lines tree indent last pending ih =>
    rw [ih, List.flatMap_append, flatMap_lines_branches, List.flatMap_cons, Branch.lines]
    simp

/-- Drawing siblings appends the lines of the places of their forest. -/
theorem drawSiblings_eq (lines : Array String) (indent : String) (trees : List Tree) :
    drawSiblings showPaths lines indent trees =
      lines ++ (places trees).map (Place.line showPaths indent) := by
  rw [drawSiblings, drawBranches_eq, flatMap_lines_branches]

/-- The lines of a tree: that of its root, and those of the places below it. -/
def linesOf (root : Tree) : List String :=
  root.label showPaths :: (places root.children).map (Place.line showPaths "")

/-- Drawing trees one after the other appends the lines of each. -/
theorem foldl_drawTree (lines : Array String) (roots : List Tree) :
    roots.foldl (drawTree showPaths) lines = lines ++ roots.flatMap (linesOf showPaths) := by
  induction roots generalizing lines with
  | nil => simp
  | cons root rest ih =>
    rw [List.foldl_cons, ih, drawTree, drawSiblings_eq, List.flatMap_cons, linesOf,
      ← Array.toList_inj]
    simp

/-- A forest is drawn as the lines of its trees. -/
theorem draw_eq (roots : List Tree) : draw showPaths roots = roots.flatMap (linesOf showPaths) := by
  rw [draw, foldl_drawTree]
  simp

/-- Drawing siblings leaves the lines that are there and appends one line for each node of the
forest, which is read off the place of the node. The places are exactly those that stand in the
forest, as many as there are nodes, each at its own way, and in the order of these ways. A forest
is drawn as each root's label and, at no indentation, the lines of the places below the root.

The loop is taken apart into what pending branches stand for, and the order is that of the ways,
compared number by number. -/
theorem drawing_lines_by_place (showPaths : Bool) :
    (∀ (lines : Array String) (indent : String) (trees : List Tree),
      (drawSiblings showPaths lines indent trees).toList =
        lines.toList ++ (places trees).map (Place.line showPaths indent)) ∧
    (∀ trees place, place ∈ places trees ↔ place.StandsIn trees) ∧
    (∀ trees, (places trees).length = sizes trees ∧
      (places trees).Pairwise fun first second => first.way < second.way) ∧
    ∀ roots, draw showPaths roots = roots.flatMap fun root =>
      root.label showPaths :: (drawSiblings showPaths #[] "" root.children).toList := by
  refine ⟨?_, fun trees place => mem_places, ?_, ?_⟩
  · intro lines indent trees
    rw [drawSiblings_eq]
    simp
  · intro trees
    exact ⟨length_placesAfter [] trees, pairwise_way_placesAfter [] trees⟩
  · intro roots
    rw [draw_eq]
    congr 1
    funext root
    rw [linesOf, drawSiblings_eq]
    simp

/-- A node that has a sibling to come, with a child below it that has none. -/
example : (drawSiblings false #["App"] "* "
    [⟨"Menu", "", none, [⟨"Item", "", some "", []⟩]⟩, ⟨"Note", "", some "old", []⟩]).toList =
      ["App", "* ├── Menu", "* │   └── Item", "* └── Note [old]"] := by decide +kernel

end ComponentAtlas.Component.Tree
