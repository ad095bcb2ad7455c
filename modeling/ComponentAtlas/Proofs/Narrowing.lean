import ComponentAtlas.Proofs.Inventory

/-!
# Selections of selections

A selection keeps records by their paths and cuts neighbours that are not kept. Paths are not cut,
so a selection of a selection keeps what lies under both fragments, and what the first one cuts
off the neighbours the second one would cut as well. So selections can be made in any order and
made again, and nothing else is lost: an edge between kept components stays on both of its sides,
and a root that is kept is a root.
-/

namespace ComponentAtlas.Component

/-- Neighbours that are cut twice are cut once, if the second cut keeps nothing that the first one
drops. -/
theorem Record.restrict_restrict {first second : String → Bool}
    (fewer : ∀ name, second name = true → first name = true) (record : Record) :
    (record.restrict first).restrict second = record.restrict second := by
  have again (names : List String) : (names.filter first).filter second = names.filter second := by
    rw [List.filter_filter]
    apply List.filter_congr
    intro name _
    cases kept : second name with
    | false => rfl
    | true => simp [fewer name kept]
  simp only [restrict, again]

namespace Catalog

/-- The records that pass a test, with the edges among them. -/
def induced (catalog : Catalog) (keep : Record → Bool) : Catalog :=
  (catalog.filter keep).map (·.restrict (catalog.filter keep).has)

/-- A selection is told by the paths of the records. -/
theorem select_eq_induced (catalog : Catalog) (includePath : String) :
    catalog.select includePath = catalog.induced (·.liesUnder includePath) := rfl

/-- Records that pass two tests pass the first one. -/
theorem has_filter_of_both {catalog : Catalog} {first second : Record → Bool} {name : String}
    (held : (catalog.filter fun record => first record && second record).has name = true) :
    (catalog.filter first).has name = true := by
  rw [has_iff, ← isSome_get?, get?_filter, Option.isSome_iff_exists] at held ⊢
  obtain ⟨record, found⟩ := held
  obtain ⟨before, passes⟩ := Option.filter_eq_some_iff.mp found
  exact ⟨record, Option.filter_eq_some_iff.mpr ⟨before, (Bool.and_eq_true_iff.mp passes).1⟩⟩

/-- Of the records that pass one test those are taken that pass another one, which does not look
at neighbours: these are the records that pass both. -/
theorem induced_induced (catalog : Catalog) {first second : Record → Bool}
    (blind : ∀ record keep, second (Record.restrict keep record) = second record) :
    (catalog.induced first).induced second =
      catalog.induced fun record => first record && second record := by
  have kept : (catalog.induced first).filter second =
      (catalog.filter fun record => first record && second record).map
        (·.restrict (catalog.filter first).has) := by
    apply ext_entries
    simp only [induced, filter, map, List.filter_map, List.filter_filter]
    congr 1
    apply List.filter_congr
    rintro ⟨key, record⟩ _
    simp [blind, Bool.and_comm]
  have names : ((catalog.induced first).filter second).has =
      (catalog.filter fun record => first record && second record).has := by
    funext name
    rw [kept, has, keys_map, has]
  rw [induced, names, kept, induced]
  apply ext_entries
  simp only [map, List.map_map]
  apply List.map_congr_left
  rintro ⟨key, record⟩ _
  exact congrArg (key, ·) (Record.restrict_restrict (fun name => has_filter_of_both) record)

/-- A selection of a selection holds what lies under both fragments. -/
theorem select_select (catalog : Catalog) (first second : String) :
    (catalog.select first).select second =
      catalog.induced fun record => record.liesUnder first && record.liesUnder second :=
  catalog.induced_induced fun _ _ => rfl

/-- Selecting under one fragment and then under another one gives, in either order, the entries
under both, in the order of the catalog, each with the neighbours that are kept, in their order
and as often as they are listed. Selecting again changes nothing. Where children and parents
mirror each other they do so in a selection, and a root that is kept is a root of the selection. -/
theorem selections_narrow (catalog : Catalog) (first second : String) :
    let both : Keyed Record := catalog.entries.filter fun entry =>
      entry.2.liesUnder first && entry.2.liesUnder second
    (((catalog.select first).select second).entries = both.map fun entry =>
      (entry.1, { entry.2 with
        children := entry.2.children.filter (both.keys.contains ·)
        parents := entry.2.parents.filter (both.keys.contains ·) })) ∧
    (catalog.select first).select second = (catalog.select second).select first ∧
    (catalog.select first).select first = catalog.select first ∧
    (catalog.Mirrored → (catalog.select first).Mirrored) ∧
    ∀ key ∈ (catalog.select first).keys, key ∈ catalog.roots →
      key ∈ (catalog.select first).roots := by
  refine ⟨?_, ?_, ?_, Mirrored.select, ?_⟩
  · rw [select_select]
    rfl
  · rw [select_select, select_select]
    exact congrArg catalog.induced (funext fun record => Bool.and_comm _ _)
  · rw [select_select, select_eq_induced]
    exact congrArg catalog.induced (funext fun record => Bool.and_self _)
  · intro key kept root
    obtain ⟨_, unlisted⟩ := mem_roots.mp root
    exact mem_roots.mpr ⟨kept, fun parent edge => unlisted parent (hasChild_select.mp edge).1⟩

end Catalog

end ComponentAtlas.Component
