import Mathlib.Logic.Relation
import ComponentAtlas.Component.Usage
import ComponentAtlas.Proofs.Parentheses
import ComponentAtlas.Proofs.Sites

/-!
# Redundant syntax

Parentheses around an initializer, a callee, an argument or a superclass, and an `export` in
front of a declaration of the module, change nothing in what is said of the module: the
definitions, their forms and what each of them renders.

What is said of a module is put together from what is said of each of its statements, whether
the candidates are those of the top level or those of every depth. So it is enough that alike
statements are said the same of, and that an exported declaration is said the same of as the
declaration.
-/

namespace ComponentAtlas.Component

open Syntax Node

variable {conventions : Conventions} {old new : Node}

/-! ## What a body renders -/

/-- Alike nodes both open a scope, or neither does. -/
theorem opensScope_alike (alike : Alike old new) :
    opensScope conventions new = opensScope conventions old := by
  unfold opensScope
  have bound := alike.child? "value"
  rw [alike.isForwardingCall conventions, alike.isFunctionDeclaration, alike.isClassDeclaration,
    alike.isDeclarator]
  generalize old.child? "value" = first, new.child? "value" = second at bound ⊢
  cases bound with
  | none => rfl
  | some turned =>
    simp only [Option.map_some, turned.alikeInside.isFunctionExpression,
      turned.alikeInside.isForwardingCall conventions]

/-- Alike nodes render the same. -/
theorem rendered?_alike (alike : Alike old new) : rendered? new = rendered? old := by
  have same : new.isTag = old.isTag := by simp [isTag, alike.kind]
  rw [rendered?, rendered?, same]
  split
  case isTrue tag =>
    congr 1
    apply bind_eq_of_rel (alike.child?_alike_of_kind (closed_of_kinds (by decide) tag) "name")
    intro name _ changed part
    exact part.tagName?
  case isFalse => rfl

/-- What a body renders is collected without seeing parentheses. -/
theorem blind_rendered (conventions : Conventions) :
    Blind (fun node => !opensScope conventions node) rendered? where
  enters alike := by rw [opensScope_alike alike]
  reads := rendered?_alike
  passes kind := by
    simp [opensScope, isFunctionDeclaration, isClassDeclaration, isDeclarator,
      isForwardingCall, kind]
  skips kind := by simp [rendered?, isTag, kind]
  ignores trivia := by simp [rendered?, Node.child?, trivia.leaf]

/-- Alike bodies render the same components. -/
theorem childComponents_alike (alike : Alike old new) :
    childComponents conventions new = childComponents conventions old := by
  rw [childComponents, childComponents, ownNodes, ownNodes, filterMap_walk, filterMap_walk,
    (blind_rendered conventions).readings_below alike]

/-! ## Definitions -/

/-- What is said of a definition: its name, its form, and the components that it renders. -/
def Definition.summary (conventions : Conventions) (definition : Definition) :
    String × Form × List String :=
  (definition.name, definition.form, childComponents conventions definition.body)

/-- What is said of the definition that a declaration makes. -/
def summary? (conventions : Conventions) (declaration : Node) :
    Option (String × Form × List String) :=
  (Definition.ofNode? conventions declaration).map (·.summary conventions)

/-- Alike declarations declare the same name. -/
theorem declaredName_alike (alike : Alike old new) (closed : old.kind ∉ enclosingKinds) :
    Definition.declaredName new = Definition.declaredName old := by
  rw [Definition.declaredName, Definition.declaredName, alike.map_text_child? closed]

/-- Alike values define the same. -/
theorem ofValue?_alike (alike : Alike old new) (name : String) :
    (Definition.ofValue? conventions name new).map (·.summary conventions) =
      (Definition.ofValue? conventions name old).map (·.summary conventions) := by
  unfold Definition.ofValue?
  rw [alike.isFunctionExpression, alike.containsMarkup, alike.isForwardingCall conventions]
  split
  · split
    · simp [Definition.summary, childComponents_alike alike]
    · rfl
  · split
    case isTrue forwards =>
      have given := alike.firstArgument? (kind_of_forwarding forwards)
      generalize old.firstArgument? = first, new.firstArgument? = second at given ⊢
      cases given with
      | none => rfl
      | some same =>
        simp only [Option.map_some, Alike.isFunctionExpression same]
        split
        · simp [Definition.summary, childComponents_alike same]
        · rfl
    case isFalse => rfl

/-- Alike variables define the same. -/
theorem ofDeclarator?_alike (alike : Alike old new) (declares : old.isDeclarator = true) :
    (Definition.ofDeclarator? conventions new).map (·.summary conventions) =
      (Definition.ofDeclarator? conventions old).map (·.summary conventions) := by
  unfold Definition.ofDeclarator?
  have closed : ∀ child, child.field = some "name" → ¬Enclosable old child := by
    have kind : old.kind = "variable_declarator" := eq_of_beq declares
    intro child fills place
    cases place <;> simp_all
  have name := alike.child?_alike closed
  have bound := alike.child? "value"
  generalize old.child? "name" = a, new.child? "name" = b at name ⊢
  generalize old.child? "value" = c, new.child? "value" = d at bound ⊢
  cases name with
  | none => rfl
  | some same =>
    simp only [Option.bind_eq_bind, Option.bind_some, same.kind, same.text]
    cases bound with
    | none => simp
    | some turned =>
      simp only [Option.bind_some, Option.map_bind, Function.comp_def,
        ofValue?_alike turned.alikeInside]

/-- Alike functions define the same. -/
theorem ofFunction?_alike (alike : Alike old new) (declares : old.isFunctionDeclaration = true) :
    (Definition.ofFunction? new).map (·.summary conventions) =
      (Definition.ofFunction? old).map (·.summary conventions) := by
  unfold Definition.ofFunction?
  dsimp only
  rw [declaredName_alike alike (closed_of_kinds (by decide) declares)]
  split
  · simp [Definition.summary, childComponents_alike alike]
  · rfl

/-- Alike classes define the same. -/
theorem ofClass?_alike (alike : Alike old new) (declares : old.isClassDeclaration = true) :
    (Definition.ofClass? conventions new).map (·.summary conventions) =
      (Definition.ofClass? conventions old).map (·.summary conventions) := by
  unfold Definition.ofClass?
  have superclass := alike.superclass? declares
  rw [declaredName_alike alike (closed_of_kinds (by decide) declares)]
  generalize old.superclass? = first, new.superclass? = second at superclass ⊢
  cases superclass with
  | none => simp
  | some same =>
    simp only [Option.bind_eq_bind, Option.bind_some, Option.map_bind, Function.comp_def,
      Alike.refersTo same]
    simp [Definition.summary, childComponents_alike alike]

/-- Alike declarations are said the same of. -/
theorem summary?_alike (alike : Alike old new) :
    summary? conventions new = summary? conventions old := by
  unfold summary? Definition.ofNode?
  rw [alike.isFunctionDeclaration, alike.isDeclarator, alike.isClassDeclaration]
  split
  case isTrue declares => exact ofFunction?_alike alike declares
  case isFalse =>
    split
    case isTrue declares => exact ofDeclarator?_alike alike declares
    case isFalse =>
      split
      case isTrue declares => exact ofClass?_alike alike declares
      case isFalse => rfl

/-- What declares nothing makes no definition. -/
theorem summary?_of_plain {node : Node} (plain : node.isPlain = true) :
    summary? conventions node = none := by
  simp only [isPlain, isDeclaration, Bool.not_eq_true', Bool.or_eq_false_iff] at plain
  simp [summary?, Definition.ofNode?, plain]

/-- A leaf has no name, so it makes no definition. -/
theorem summary?_of_leaf {node : Node} (leaf : node.children = []) :
    summary? conventions node = none := by
  have absent (field : String) : node.child? field = none := by simp [Node.child?, leaf]
  simp [summary?, Definition.ofNode?, Definition.ofFunction?, Definition.ofDeclarator?,
    Definition.ofClass?, Definition.declaredName, absent, isName_empty]

/-- Definitions at every depth are collected without seeing parentheses. -/
theorem blind_summary (conventions : Conventions) :
    Blind (fun _ => true) (summary? conventions) where
  enters _ := rfl
  reads := summary?_alike
  passes _ := rfl
  skips kind := summary?_of_plain (isPlain_of_parenthesized kind)
  ignores trivia := summary?_of_leaf trivia.leaf

/-! ## What a statement offers -/

/-- What is said of the definitions among the candidates that a statement of a module offers. -/
def offers (conventions : Conventions) (statement : Node) : List (String × Form × List String) :=
  if conventions.includeNested then readings (fun _ => true) (summary? conventions) statement
  else if statement.named then
    ((exported? statement).elim [] statementCandidates).filterMap (summary? conventions)
  else []

/-- The candidates of a module's top level are those of its named children in turn. -/
theorem filterMap_moduleCandidates {α : Type} (read : Node → Option α) (root : Node) :
    (moduleCandidates root).filterMap read = root.children.flatMap fun statement =>
      if statement.named then ((exported? statement).elim [] statementCandidates).filterMap read
      else [] := by
  rw [moduleCandidates, namedChildren]
  induction root.children with
  | nil => rfl
  | cons statement rest ih =>
    rw [List.flatMap_cons, ← ih]
    by_cases named : statement.named = true
    · cases carried : exported? statement <;> simp [named, carried]
    · simp [named]

/-- What is said of a module is what is said of its statements in turn. -/
theorem map_summary_definitions (conventions : Conventions) (root : Node) :
    (definitions conventions root).map (·.summary conventions) =
      root.children.flatMap (offers conventions) := by
  have joined (candidates : List Node) :
      (candidates.filterMap (Definition.ofNode? conventions)).map (·.summary conventions) =
        candidates.filterMap (summary? conventions) := List.map_filterMap
  rw [definitions, joined]
  unfold offers
  split
  case isTrue nested =>
    rw [allCandidates, List.filterMap_filter]
    have every : (fun node =>
        if node.isDeclaration = true then summary? conventions node else none) =
          summary? conventions := by
      funext node
      split
      case isTrue => rfl
      case isFalse plain => rw [summary?_of_plain (by simpa [isPlain] using plain)]
    rw [every, descendants, ← filterMap_walk, List.filter_true]
  case isFalse top => exact filterMap_moduleCandidates _ root

/-- Alike statements have candidates that are said the same of. -/
theorem statementCandidates_alike (alike : Alike old new) :
    (statementCandidates new).filterMap (summary? conventions) =
      (statementCandidates old).filterMap (summary? conventions) := by
  have kept : new.isVariableDeclaration = old.isVariableDeclaration := by
    simp [isVariableDeclaration, alike.kind]
  rw [statementCandidates, statementCandidates, kept]
  split
  case isTrue declares =>
    have listed : List.Forall₂ Alike (old.namedChildren.filter isDeclarator)
        (new.namedChildren.filter isDeclarator) := by
      apply List.rel_filter _ (alike.namedChildren_alike (closed_of_kinds (by decide) declares))
      intro child changed same
      simp [same.isDeclarator]
    generalize old.namedChildren.filter isDeclarator = first,
      new.namedChildren.filter isDeclarator = second at listed ⊢
    induction listed with
    | nil => rfl
    | cons same rest ih => rw [List.filterMap_cons, List.filterMap_cons, summary?_alike same, ih]
  case isFalse => rw [List.filterMap_cons, List.filterMap_cons, summary?_alike alike]

/-- Alike statements of a module are said the same of. -/
theorem offers_alike (alike : Alike old new) : offers conventions new = offers conventions old := by
  unfold offers
  rw [(blind_summary conventions).readings_alike alike, alike.named]
  have carried : Option.Rel Alike (exported? old) (exported? new) := by
    rw [exported?, exported?, alike.kind]
    split
    case isTrue exports =>
      apply alike.child?_alike_of_kind
      simp [eq_of_beq exports, enclosingKinds]
    case isFalse => exact .some alike
  generalize exported? old = first, exported? new = second at carried ⊢
  cases carried with
  | none => rfl
  | some same => simp only [Option.elim_some, statementCandidates_alike same]

/-! ## Exporting -/

/-- An `export` of a declaration: the declaration fills its field, and nothing else that counts
stands beside it. -/
structure Exports (statement declaration : Node) : Prop where
  kind : statement.kind = "export_statement"
  named : statement.named = true
  carries : statement.child? "declaration" = some (declaration.inField "declaration")
  inside : statement.Holds (declaration.inField "declaration")

/-- A declared function or class, or a statement that declares variables. -/
def isDeclarationStatement (node : Node) : Bool :=
  node.isFunctionDeclaration || node.isClassDeclaration || node.isVariableDeclaration

/-- One of the declarations of a module is exported. -/
inductive Exported (root : Node) : Node → Prop
  | intro {declaration statement : Node} {before after : List Node}
      (split : root.children = before ++ declaration :: after)
      (named : declaration.named = true) (declares : isDeclarationStatement declaration = true)
      (exports : Exports statement declaration) :
      Exported root { root with children := before ++ statement :: after }

/-- An exported declaration is said the same of as the declaration. -/
theorem offers_exports {statement declaration : Node} (exports : Exports statement declaration)
    (named : declaration.named = true) (declares : isDeclarationStatement declaration = true) :
    offers conventions statement = offers conventions declaration := by
  have moved : Alike declaration (declaration.inField "declaration") :=
    Alike.of_field declaration (some "declaration")
  unfold offers
  by_cases nested : conventions.includeNested = true
  · have plain : statement.isPlain = true := by
      simp [isPlain, isDeclaration, isFunctionDeclaration, isClassDeclaration, isDeclarator,
        exports.kind]
    rw [if_pos nested, if_pos nested,
      (blind_summary conventions).readings_holds exports.inside rfl (summary?_of_plain plain),
      (blind_summary conventions).readings_alike moved]
  · have other : exported? declaration = some declaration := by
      have apart : declaration.kind ≠ "export_statement" := by
        intro kind
        simp [isDeclarationStatement, isFunctionDeclaration, isClassDeclaration,
          isVariableDeclaration, kind] at declares
      simp [exported?, apart]
    have carried : exported? statement = some (declaration.inField "declaration") := by
      simp [exported?, exports.kind, exports.carries]
    rw [if_neg nested, if_neg nested, if_pos exports.named, if_pos named, other, carried,
      Option.elim_some, Option.elim_some, statementCandidates_alike moved]

/-! ## Redundant syntax -/

/-- Redundant syntax is added to a module at one place. -/
inductive Redundant (old new : Node) : Prop
  | enclosing (step : Parenthesized old new)
  | exporting (step : Exported old new)

/-- One addition of redundant syntax leaves a module a module, and leaves what is said of it. -/
theorem Redundant.summaries (step : Redundant old new) (program : old.kind = "program") :
    new.kind = "program" ∧ (definitions conventions new).map (·.summary conventions) =
      (definitions conventions old).map (·.summary conventions) := by
  rw [map_summary_definitions, map_summary_definitions]
  cases step with
  | enclosing step =>
    have closed : old.kind ∉ enclosingKinds := by simp [program, enclosingKinds]
    constructor
    · exact step.alike.kind.trans program
    · apply flatMap_eq_of_forall₂ (step.alike.children_alike closed)
      intro statement _ changed same
      exact offers_alike same
  | exporting step =>
    obtain ⟨split, named, declares, exports⟩ := step
    constructor
    · exact program
    · rw [split]
      simp only [List.flatMap_append, List.flatMap_cons, offers_exports exports named declares]

/-- Redundant syntax is invisible: wherever and however often parentheses and exports are added to
a module, its definitions keep their order, their names, their forms and what they render, at the
top level as well as at every depth.

Induction on the additions. Each of them leaves a module, so the next one finds one. -/
theorem redundant_syntax_invisible (conventions : Conventions) {tree dressed : Node}
    (program : tree.kind = "program") (added : Relation.ReflTransGen Redundant tree dressed) :
    (definitions conventions dressed).map (·.summary conventions) =
      (definitions conventions tree).map (·.summary conventions) := by
  have laws : dressed.kind = "program" ∧
      (definitions conventions dressed).map (·.summary conventions) =
        (definitions conventions tree).map (·.summary conventions) := by
    induction added with
    | refl => exact ⟨program, rfl⟩
    | tail _ step ih =>
      obtain ⟨kind, kept⟩ := step.summaries ih.1
      exact ⟨kind, kept.trans ih.2⟩
  exact laws.2

/-- A wrapper in parentheses, with a comment beside it, in a declaration that is exported. -/
theorem redundant_syntax_invisible_forwarding :
    let token (text : String) : Node := { leaf text text with named := false }
    let wrapper := (leaf "identifier" "forwardRef").inField "function"
    let wrapped := (branch "parenthesized_expression"
      [token "(", leaf "comment" "// same", leaf "identifier" "forwardRef", token ")"]).inField
        "function"
    let markup := branch "jsx_self_closing_element" [(leaf "identifier" "Input").inField "name"]
    let list := (branch "arguments" [branch "arrow_function" [markup]]).inField "arguments"
    let statement (callee : Node) := branch "lexical_declaration" [branch "variable_declarator"
      [(leaf "identifier" "Field").inField "name",
        (branch "call_expression" [callee, list]).inField "value"]]
    let tree := branch "program" [statement wrapper]
    let dressed := branch "program"
      [branch "export_statement" [token "export", (statement wrapped).inField "declaration"]]
    tree.kind = "program" ∧ Relation.ReflTransGen Redundant tree dressed ∧
      (definitions .standard dressed).map (·.summary .standard) =
        [("Field", .refForwardingBinding, ["Input"])] := by
  intro token wrapper wrapped markup list statement tree dressed
  have wraps : Encloses wrapped wrapper :=
    ⟨rfl, rfl, rfl, by decide, none, [token "(", leaf "comment" "// same"], [token ")"], rfl,
      by decide, by decide⟩
  have callee : Parenthesized (statement wrapper) (statement wrapped) :=
    @Parenthesized.deeper _ _ _ [] [] rfl
      (@Parenthesized.deeper _ _ _ [(leaf "identifier" "Field").inField "name"] [] rfl
        (@Parenthesized.here _ _ _ [] [list] rfl (.callee rfl rfl) wraps))
  have exports : Exports (branch "export_statement" [token "export",
      (statement wrapped).inField "declaration"]) (statement wrapped) :=
    ⟨rfl, rfl, rfl, [token "export"], [], rfl, by decide, by decide⟩
  have added : Relation.ReflTransGen Redundant tree dressed := by
    refine .tail (.single (.enclosing (@Parenthesized.deeper tree _ _ [] [] rfl callee))) ?_
    exact .exporting (@Exported.intro _ _ _ [] [] rfl rfl rfl exports)
  refine ⟨rfl, added, ?_⟩
  rw [redundant_syntax_invisible .standard rfl added]
  decide +kernel

end ComponentAtlas.Component
