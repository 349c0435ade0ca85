/-
A path read over a tree of elements, and a matcher that is fed the tags of the tree. A
node of the tree is known by its address, the numbers of the children on the way down,
and a step of a path leads from node to node. Whatever a path selects over the tree, the
matcher says so at the start tag of the node, and says it again at its end tag. What it
reads before a node are the start tags of the elements around it, and elements that have
ended, of which nothing is left.
-/

import SchemaAssessment.Proofs.Sequences
import SchemaAssessment.Proofs.Path.Selection

namespace SchemaAssessment

/-! ### Trees of elements -/

/-- An element, with the names of its attributes and the elements inside of it. -/
inductive ElementTree where
  | node (name : ExpandedName) (attributes : List ExpandedName) (children : List ElementTree)

/-- A tag as a matcher is fed it. -/
inductive PathTag where
  | start (name : ExpandedName) (attributes : List ExpandedName)
  | finish

namespace ElementTree

/-- The name of the element. -/
def name : ElementTree → ExpandedName
  | .node name _ _ => name

/-- The names of the attributes of the element. -/
def attributes : ElementTree → List ExpandedName
  | .node _ attributes _ => attributes

/-- The elements inside of the element, without those further down. -/
def children : ElementTree → List ElementTree
  | .node _ _ children => children

/-- The node at an address. -/
def node? (tree : ElementTree) : List Nat → Option ElementTree
  | [] => some tree
  | index :: rest => tree.children[index]?.bind fun child => child.node? rest

/-- The names of the nodes on the way down to an address, that of the tree itself left aside. -/
def namesTo (tree : ElementTree) : List Nat → List ExpandedName
  | [] => []
  | index :: rest => tree.children[index]?.elim [] fun child => child.name :: child.namesTo rest

mutual

/-- The tags of an element in the order of the document. -/
def tags : ElementTree → List PathTag
  | .node name attributes children => .start name attributes :: (tagsOf children ++ [.finish])

/-- The tags of elements that stand behind one another. -/
def tagsOf : List ElementTree → List PathTag
  | [] => []
  | tree :: rest => tree.tags ++ tagsOf rest

end

/-- The tags in front of the node at an address: the start tags of the elements around it, and the
elements that have ended in each of them. -/
def tagsBefore (tree : ElementTree) : List Nat → List PathTag
  | [] => []
  | index :: rest =>
    .start tree.name tree.attributes :: (tagsOf (tree.children.take index) ++
      tree.children[index]?.elim [] fun child => child.tagsBefore rest)

theorem tagsOf_append (first second : List ElementTree) :
    tagsOf (first ++ second) = tagsOf first ++ tagsOf second := by
  induction first with
  | nil => rfl
  | cons tree rest ofRest => rw [List.cons_append, tagsOf, tagsOf, ofRest, List.append_assoc]

theorem node?_append (tree : ElementTree) (first second : List Nat) :
    tree.node? (first ++ second) =
      (tree.node? first).bind fun between => between.node? second := by
  induction first generalizing tree with
  | nil => rfl
  | cons index rest ofRest =>
    rw [List.cons_append, node?, node?, Option.bind_assoc]
    exact congrArg (Option.bind _) (funext fun child => ofRest child)

theorem namesTo_child {tree child : ElementTree} {index : Nat}
    (standing : tree.children[index]? = some child) (rest : List Nat) :
    tree.namesTo (index :: rest) = child.name :: child.namesTo rest := by
  rw [namesTo, standing, Option.elim_some]

theorem length_namesTo {tree node : ElementTree} {address : List Nat}
    (found : tree.node? address = some node) :
    (tree.namesTo address).length = address.length := by
  induction address generalizing tree with
  | nil => rfl
  | cons index rest ofRest =>
    obtain ⟨child, standing, below⟩ := Option.bind_eq_some_iff.mp found
    rw [namesTo_child standing, List.length_cons, List.length_cons, ofRest below]

/-- The node that the way to an address goes through below another one, and its name. -/
theorem exists_child_of_node? {tree node : ElementTree} {above rest : List Nat} {index : Nat}
    (found : tree.node? (above ++ index :: rest) = some node) :
    ∃ child, tree.node? (above ++ [index]) = some child ∧
      (tree.namesTo (above ++ index :: rest)).drop above.length =
        child.name :: (tree.namesTo (above ++ index :: rest)).drop (above ++ [index]).length := by
  induction above generalizing tree with
  | nil =>
    obtain ⟨child, standing, -⟩ := Option.bind_eq_some_iff.mp found
    refine ⟨child, by rw [List.nil_append, node?, standing]; rfl, ?_⟩
    rw [List.nil_append, namesTo_child standing]
    rfl
  | cons first above ofAbove =>
    obtain ⟨between, standing, below⟩ := Option.bind_eq_some_iff.mp found
    obtain ⟨child, reached, same⟩ := ofAbove below
    refine ⟨child, ?_, ?_⟩
    · rw [List.cons_append, node?, standing]
      exact reached
    · rw [List.cons_append, namesTo_child standing]
      exact same

/-- The tags of a node stand in those of the tree, behind the tags in front of it. -/
theorem tags_eq_append {tree node : ElementTree} {address : List Nat}
    (found : tree.node? address = some node) :
    ∃ rest, tree.tags = tree.tagsBefore address ++ (node.tags ++ rest) := by
  induction address generalizing tree with
  | nil =>
    obtain rfl := Option.some.inj found
    exact ⟨[], (List.append_nil _).symm⟩
  | cons index rest ofRest =>
    obtain ⟨child, standing, below⟩ := Option.bind_eq_some_iff.mp found
    obtain ⟨behind, same⟩ := ofRest below
    obtain ⟨name, attributes, children⟩ := tree
    have split : children = children.take index ++ child :: children.drop (index + 1) := by
      obtain ⟨inside, rfl⟩ := List.getElem?_eq_some_iff.mp standing
      exact (List.take_append_drop index children).symm.trans
        (congrArg _ (List.drop_eq_getElem_cons inside))
    refine ⟨behind ++ tagsOf (children.drop (index + 1)) ++ [.finish], ?_⟩
    rw [tagsBefore, standing, tags]
    conv_lhs => rw [split, tagsOf_append, tagsOf, same]
    simp only [Option.elim_some, List.cons_append, List.append_assoc]
    rfl

end ElementTree

/-! ### Balanced tags -/

namespace PathTag

/-- The number of open elements behind some tags, if so many are open before them. There is none
where an end tag belongs to none of the start tags. -/
def openBehind? (count : Nat) : List PathTag → Option Nat
  | [] => some count
  | .start .. :: rest => openBehind? (count + 1) rest
  | .finish :: rest => if count = 0 then none else openBehind? (count - 1) rest

/-- Every end tag belongs to one of the start tags, and every start tag to one of the end tags. -/
def IsBalanced (tags : List PathTag) : Prop := openBehind? 0 tags = some 0

instance (tags : List PathTag) : Decidable (IsBalanced tags) := inferInstanceAs (Decidable (_ = _))

/-- Tags that close all open elements are those of some elements, and then, for each open one, its
end tag and the elements that come behind it. -/
theorem exists_trees_of_openBehind? {tags : List PathTag} {count : Nat}
    (closes : openBehind? count tags = some 0) :
    ∃ (first : List ElementTree) (behind : List (List ElementTree)), behind.length = count ∧
      tags = ElementTree.tagsOf first ++
        behind.flatMap fun trees => .finish :: ElementTree.tagsOf trees := by
  induction tags generalizing count with
  | nil => exact ⟨[], [], (Option.some.inj closes).symm, rfl⟩
  | cons tag rest ofRest =>
    cases tag with
    | start name attributes =>
      obtain ⟨first, behind, length, rfl⟩ := ofRest closes
      -- the end tag of this element is the first one that the others leave over
      obtain ⟨trees, others, rfl⟩ := List.exists_cons_of_length_eq_add_one length
      refine ⟨.node name attributes first :: trees, others, Nat.succ.inj length, ?_⟩
      simp [ElementTree.tagsOf, ElementTree.tags]
    | finish =>
      rw [openBehind?] at closes
      split at closes
      · cases closes
      · rename_i inside
        obtain ⟨first, behind, length, rfl⟩ := ofRest closes
        refine ⟨[], first :: behind, ?_, ?_⟩
        · rw [List.length_cons, length]
          omega
        · rfl

/-- Balanced tags are those of elements that stand behind one another. -/
theorem IsBalanced.exists_trees {tags : List PathTag} (balanced : IsBalanced tags) :
    ∃ trees, tags = ElementTree.tagsOf trees := by
  obtain ⟨first, behind, none, same⟩ := exists_trees_of_openBehind? balanced
  rw [List.length_eq_zero_iff.mp none, List.flatMap_nil, List.append_nil] at same
  exact ⟨first, same⟩

end PathTag

/-! ### Paths over a tree -/

/-- A step leads from one node of a tree to another: to the same one, or to a child whose name it
takes. A step to an attribute leads to no node. -/
def Step.LeadsTo (tree : ElementTree) (step : Step) (source target : List Nat) : Prop :=
  match step.axis with
  | .self => target = source
  | .child => ∃ index child, target = source ++ [index] ∧ tree.node? target = some child ∧
      step.test.holds child.name = true
  | .attribute => False

/-- Steps lead from one node of a tree to another, one step after the other. -/
def Step.AllLeadTo (tree : ElementTree) : List Step → List Nat → List Nat → Prop
  | [], source, target => target = source
  | step :: rest, source, target =>
    ∃ between, step.LeadsTo tree source between ∧ AllLeadTo tree rest between target

namespace LocationPath

/-- Some of the steps of a path lead from its context element, the tree itself, to a node. A path
that may begin anywhere begins at the context element or at a node below it. -/
def LeadsWithin (path : LocationPath) (tree : ElementTree) (steps : List Step)
    (target : List Nat) : Prop :=
  ∃ source, (source = [] ∨ path.isDeep = true ∧ (tree.node? source).isSome = true) ∧
    Step.AllLeadTo tree steps source target

/-- The path has no step to an attribute, and its steps lead to the node. -/
def SelectsNode (path : LocationPath) (tree : ElementTree) (target : List Nat) : Prop :=
  (∀ step ∈ path.steps, step.axis ≠ .attribute) ∧ path.LeadsWithin tree path.steps target

/-- The path ends in a step to an attribute, which takes the name of the one at the given place, and
the steps before it lead to the node. -/
def SelectsAttribute (path : LocationPath) (tree : ElementTree) (target : List Nat)
    (attributes : List ExpandedName) (index : Nat) : Prop :=
  ∃ test name, path.steps.getLast? = some ⟨.attribute, test⟩ ∧
    path.LeadsWithin tree path.steps.dropLast target ∧ attributes[index]? = some name ∧
      test.holds name = true

end LocationPath

section Leading

variable {tree node : ElementTree} {target : List Nat}

/-- Steps lead to a node from one above it, along the names in between. -/
theorem Step.allLeadTo_iff (found : tree.node? target = some node) {steps : List Step}
    {source : List Nat} :
    Step.AllLeadTo tree steps source target ↔
      source <+: target ∧ Step.lead steps ((tree.namesTo target).drop source.length) = true := by
  have length := ElementTree.length_namesTo found
  induction steps generalizing source with
  | nil =>
    rw [Step.AllLeadTo, Step.lead_nil, List.drop_eq_nil_iff, length]
    constructor
    · rintro rfl
      exact ⟨List.prefix_rfl, le_rfl⟩
    · rintro ⟨above, long⟩
      exact (above.eq_of_length_le long).symm
  | cons step rest ofRest =>
    obtain ⟨axis, test⟩ := step
    cases axis with
    | self =>
      refine Iff.trans ⟨?_, fun leads => ⟨source, rfl, leads⟩⟩ ofRest
      rintro ⟨between, rfl, leads⟩
      exact leads
    | child =>
      constructor
      · rintro ⟨between, ⟨index, child, rfl, standing, holds⟩, leads⟩
        obtain ⟨⟨below, rfl⟩, along⟩ := ofRest.mp leads
        rw [List.append_assoc, List.singleton_append] at found along ⊢
        obtain ⟨other, reached, same⟩ := ElementTree.exists_child_of_node? found
        obtain rfl := Option.some.inj (standing.symm.trans reached)
        refine ⟨List.prefix_append _ _, ?_⟩
        rw [same, Step.lead, holds, along]
        rfl
      · rintro ⟨⟨below, rfl⟩, along⟩
        cases below with
        | nil =>
          rw [List.append_nil] at along length
          rw [List.drop_eq_nil_of_le length.le] at along
          cases along
        | cons index below =>
          obtain ⟨child, reached, same⟩ := ElementTree.exists_child_of_node? found
          rw [same, Step.lead, Bool.and_eq_true] at along
          exact ⟨source ++ [index], ⟨index, child, rfl, reached, along.1⟩,
            ofRest.mpr ⟨⟨below, by simp⟩, along.2⟩⟩
    | _ =>
      constructor
      · rintro ⟨_, impossible, _⟩
        exact impossible.elim
      · rintro ⟨_, leads⟩
        cases leads

/-- Where steps lead there is no step to an attribute among them. -/
theorem Step.AllLeadTo.no_attribute {steps : List Step} {source : List Nat}
    (leads : Step.AllLeadTo tree steps source target) : ∀ step ∈ steps, step.axis ≠ .attribute := by
  induction steps generalizing source with
  | nil => exact fun _ member => by cases member
  | cons step rest ofRest =>
    obtain ⟨between, first, others⟩ := leads
    refine List.forall_mem_cons.mpr ⟨fun toAttribute => ?_, ofRest others⟩
    rwa [Step.LeadsTo, toAttribute] at first

namespace LocationPath

/-- Over the tree a path leads to a node where it leads along the names on the way down. -/
theorem leadsWithin_iff (found : tree.node? target = some node) {path : LocationPath}
    {steps : List Step} :
    path.LeadsWithin tree steps target ↔ path.leads steps (tree.namesTo target) = true := by
  rw [leads_iff]
  constructor
  · rintro ⟨source, begins, leads⟩
    refine ⟨_, begins.imp ?_ ?_, ((Step.allLeadTo_iff found).mp leads).2⟩
    · rintro rfl
      exact List.drop_zero
    · exact fun ⟨deep, _⟩ => ⟨deep, List.drop_suffix _ _⟩
  · rintro ⟨kept, rfl | ⟨deep, suffix⟩, leads⟩
    · exact ⟨[], Or.inl rfl, (Step.allLeadTo_iff found).mpr ⟨List.nil_prefix, leads⟩⟩
    · -- the names that are left out are those down to the node where the path begins
      obtain ⟨dropped, same⟩ := suffix
      have within : dropped.length ≤ target.length := by
        rw [← ElementTree.length_namesTo found, ← same, List.length_append]
        omega
      have source : (target.take dropped.length).length = dropped.length :=
        List.length_take_of_le within
      refine ⟨target.take dropped.length, Or.inr ⟨deep, ?_⟩, (Step.allLeadTo_iff found).mpr
        ⟨List.take_prefix _ _, ?_⟩⟩
      · rw [← List.take_append_drop dropped.length target, ElementTree.node?_append] at found
        obtain ⟨between, standing, -⟩ := Option.bind_eq_some_iff.mp found
        rw [standing, Option.isSome_some]
      · rw [source, ← same, List.drop_left]
        exact leads

theorem selectsNode_iff (found : tree.node? target = some node) {path : LocationPath} :
    path.SelectsNode tree target ↔ path.leads path.steps (tree.namesTo target) = true := by
  rw [← leadsWithin_iff found]
  exact and_iff_right_of_imp fun ⟨_, _, leads⟩ => leads.no_attribute

theorem attributeTest?_eq_some {path : LocationPath} {test : NameTest} :
    path.attributeTest? = some test ↔ path.steps.getLast? = some ⟨.attribute, test⟩ := by
  unfold attributeTest?
  split
  · rename_i other ending
    rw [ending]
    simp
  · rename_i others
    exact iff_of_false (by simp) (others test)

theorem mem_attributesAt {path : LocationPath} {names attributes : List ExpandedName}
    {index : Nat} :
    index ∈ path.attributesAt names attributes ↔
      ∃ test name, path.attributeTest? = some test ∧
        path.leads path.steps.dropLast names = true ∧ attributes[index]? = some name ∧
          test.holds name = true := by
  unfold attributesAt
  cases path.attributeTest? with
  | none => simp
  | some test =>
    by_cases leads : path.leads path.steps.dropLast names = true
    · simp [leads, List.mem_zipIdx_iff_getElem?]
    · simp [leads]

theorem selectsAttribute_iff (found : tree.node? target = some node) {path : LocationPath}
    {attributes : List ExpandedName} {index : Nat} :
    path.SelectsAttribute tree target attributes index ↔
      index ∈ path.attributesAt (tree.namesTo target) attributes := by
  simp only [SelectsAttribute, leadsWithin_iff found, mem_attributesAt, attributeTest?_eq_some]

end LocationPath

end Leading

/-! ### Matchers that read tags -/

namespace Matcher

/-- A tag is read. -/
def read (matcher : Matcher) : PathTag → Matcher
  | .start name attributes => (matcher.start name attributes).1
  | .finish => matcher.finish.1

/-- Tags are read, one after the other. -/
def readAll (matcher : Matcher) (tags : List PathTag) : Matcher := tags.foldl read matcher

theorem readAll_append (matcher : Matcher) (first second : List PathTag) :
    matcher.readAll (first ++ second) = (matcher.readAll first).readAll second :=
  List.foldl_append

mutual

/-- An element that has ended leaves nothing behind. -/
theorem readAll_tags (matcher : Matcher) : ∀ tree : ElementTree, matcher.readAll tree.tags = matcher
  | .node name attributes children => by
    rw [ElementTree.tags, ← List.cons_append, readAll_append]
    have inside := readAll_tagsOf (matcher.start name attributes).1 children
    show (((matcher.start name attributes).1.readAll (ElementTree.tagsOf children)).finish).1 = _
    rw [inside, finish_start]

theorem readAll_tagsOf (matcher : Matcher) :
    ∀ trees : List ElementTree, matcher.readAll (ElementTree.tagsOf trees) = matcher
  | [] => rfl
  | tree :: rest => by
    rw [ElementTree.tagsOf, readAll_append, readAll_tags matcher tree, readAll_tagsOf matcher rest]

end

/-- Where a matcher goes on along some names at the start tag of a tree, it goes on along the names
further down at the start tag of each node. -/
theorem start_readAll_tagsBefore {path : IdentityPath} {tree node : ElementTree}
    {address : List Nat} (found : tree.node? address = some node) (matcher : Matcher)
    {names : List ExpandedName}
    (enters : ∀ attributes, matcher.start tree.name attributes =
      (after path names, path.selection names attributes)) (attributes : List ExpandedName) :
    (matcher.readAll (tree.tagsBefore address)).start node.name attributes =
      (after path (names ++ tree.namesTo address),
        path.selection (names ++ tree.namesTo address) attributes) := by
  induction address generalizing tree matcher names with
  | nil =>
    obtain rfl := Option.some.inj found
    simpa [ElementTree.tagsBefore, ElementTree.namesTo, readAll] using enters attributes
  | cons index rest ofRest =>
    obtain ⟨child, standing, below⟩ := Option.bind_eq_some_iff.mp found
    have same : matcher.readAll (tree.tagsBefore (index :: rest)) =
        (after path names).readAll (child.tagsBefore rest) := by
      rw [ElementTree.tagsBefore, standing]
      show (matcher.start tree.name tree.attributes).1.readAll
        (ElementTree.tagsOf (tree.children.take index) ++ child.tagsBefore rest) = _
      rw [readAll_append, readAll_tagsOf, enters]
    rw [same, ElementTree.namesTo_child standing,
      ofRest below _ fun attributes => start_after path names child.name attributes,
      List.append_assoc, List.singleton_append]

end Matcher

namespace IdentityPath

variable {path : IdentityPath} {tree node : ElementTree} {target : List Nat}

theorem selection_element_iff (found : tree.node? target = some node)
    (attributes : List ExpandedName) :
    (path.selection (tree.namesTo target) attributes).element = true ↔
      ∃ alternative ∈ path.alternatives, alternative.SelectsNode tree target := by
  simp only [selection, selects, List.any_eq_true, LocationPath.selectsNode_iff found]

theorem mem_selection_attributes (found : tree.node? target = some node)
    (attributes : List ExpandedName) (index : Nat) :
    index ∈ (path.selection (tree.namesTo target) attributes).attributes ↔
      ∃ alternative ∈ path.alternatives,
        alternative.SelectsAttribute tree target attributes index := by
  simp only [selection, attributesAt, List.mem_eraseDups, List.mem_flatMap,
    LocationPath.selectsAttribute_iff found]

end IdentityPath

/-- Balanced tags in an element spell a tree. A matcher that begins at it says of each node, at the
start tag, that the node is selected where an alternative without an attribute step selects it over
the tree, and tells each attribute that is selected there, once. It says the same of the node at the
end tag, where it is back in its state before the node. What it says is a matter of the names on the
way down and of the names of the attributes. -/
theorem Matcher.reads_as_selected (path : IdentityPath) :
    (∀ name attributes inside, PathTag.IsBalanced inside →
      ∃ tree : ElementTree, tree.tags = .start name attributes :: (inside ++ [.finish])) ∧
    ∀ (tree node : ElementTree) (address : List Nat), tree.node? address = some node →
      ∃ (behind : List PathTag) (before opened : Matcher) (told : Selection),
        tree.tags = tree.tagsBefore address ++ .start node.name node.attributes ::
          (ElementTree.tagsOf node.children ++ .finish :: behind) ∧
        (ofPath path).readAll (tree.tagsBefore address) = before ∧
        before.start node.name node.attributes = (opened, told) ∧
        (told.element = true ↔
          ∃ alternative ∈ path.alternatives, alternative.SelectsNode tree address) ∧
        (∀ index, index ∈ told.attributes ↔ ∃ alternative ∈ path.alternatives,
          alternative.SelectsAttribute tree address node.attributes index) ∧
        told.attributes.Nodup ∧
        (opened.readAll (ElementTree.tagsOf node.children)).finish = (before, told.element) ∧
        told = path.selection (tree.namesTo address) node.attributes := by
  refine ⟨fun name attributes inside balanced => ?_, fun tree node address found => ?_⟩
  · obtain ⟨children, rfl⟩ := balanced.exists_trees
    exact ⟨.node name attributes children, rfl⟩
  · obtain ⟨behind, standing⟩ := ElementTree.tags_eq_append found
    have started := start_readAll_tagsBefore found (ofPath path)
      (fun attributes => start_ofPath path tree.name attributes) node.attributes
    rw [List.nil_append] at started
    refine ⟨behind, _, _, _, ?_, rfl, started, IdentityPath.selection_element_iff found _,
      IdentityPath.mem_selection_attributes found _, nodup_eraseDups _, ?_, rfl⟩
    · obtain ⟨name, attributes, children⟩ := node
      simpa [ElementTree.tags, ElementTree.name, ElementTree.attributes, ElementTree.children]
        using standing
    · have finished := finish_start ((ofPath path).readAll (tree.tagsBefore address)) node.name
        node.attributes
      rw [started] at finished
      rw [readAll_tagsOf]
      exact finished

section Notes

private def order : ExpandedName := ⟨none, "order"⟩
private def item : ExpandedName := ⟨none, "item"⟩
private def note : ExpandedName := ⟨none, "note"⟩
private def number : ExpandedName := ⟨none, "number"⟩
private def kind : ExpandedName := ⟨none, "kind"⟩

/-- The notes anywhere in an order, and the numbers of its items. -/
private def notes : IdentityPath where
  text := ".//note | item/@number"
  alternatives := [
    ⟨true, [⟨.child, .name note⟩]⟩, ⟨false, [⟨.child, .name item⟩, ⟨.attribute, .name number⟩]⟩]

/-- The tags in an order of two items, the second of which has a note with an item inside. -/
private def inOrder : List PathTag := [
  .start item [number], .finish,
  .start item [kind, number],
    .start note [], .start item [number], .finish, .finish,
  .finish]

/-- The same order as a tree. -/
private def orderTree : ElementTree :=
  .node order [] [
    .node item [number] [],
    .node item [kind, number] [.node note [] [.node item [number] []]]]

/-- The note in the second item is selected, and so is the second attribute of that item. -/
theorem Matcher.reads_as_selected_notes :
    PathTag.IsBalanced inOrder ∧
    (∃ tree : ElementTree, tree.tags = .start order [] :: (inOrder ++ [.finish])) ∧
    orderTree.node? [1] = some (.node item [kind, number] [.node note [] [.node item [number] []]]) ∧
    orderTree.node? [1, 0] = some (.node note [] [.node item [number] []]) ∧
    (∃ alternative ∈ notes.alternatives, alternative.SelectsNode orderTree [1, 0]) ∧
    (∃ alternative ∈ notes.alternatives,
      alternative.SelectsAttribute orderTree [1] [kind, number] 1) ∧
    ¬ ∃ alternative ∈ notes.alternatives,
      alternative.SelectsAttribute orderTree [1, 0, 0] [number] 0 := by
  have balanced : PathTag.IsBalanced inOrder := by decide
  obtain ⟨spelled, answers⟩ := Matcher.reads_as_selected notes
  have atItem : orderTree.node? [1] =
      some (.node item [kind, number] [.node note [] [.node item [number] []]]) := rfl
  have atNote : orderTree.node? [1, 0] = some (.node note [] [.node item [number] []]) := rfl
  have within : orderTree.node? [1, 0, 0] = some (.node item [number] []) := rfl
  obtain ⟨-, -, -, -, -, -, -, selects, -, -, -, rfl⟩ := answers _ _ _ atNote
  obtain ⟨-, -, -, -, -, -, -, -, tells, -, -, rfl⟩ := answers _ _ _ atItem
  obtain ⟨-, -, -, -, -, -, -, -, others, -, -, rfl⟩ := answers _ _ _ within
  refine ⟨balanced, spelled order [] inOrder balanced, atItem, atNote, selects.mp ?_,
    (tells 1).mp ?_, fun selected => absurd ((others 0).mpr selected) ?_⟩ <;> decide

end Notes

end SchemaAssessment
