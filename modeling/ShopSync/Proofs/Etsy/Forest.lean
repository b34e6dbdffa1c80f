import Mathlib.Tactic
import ShopSync.Etsy.Payload

/-!
The taxonomy and its flat list.

A place in a forest is a way down: the position of a tree, then of a child, and so on.  The flat
list has one category for every place at which there is a node, in the order of the places, in which
a node comes before all that is below it and before its later siblings (`listedAs_flattenAll`).
-/

namespace ShopSync.Etsy

/-! ### Places -/

namespace TaxonomyNode

/-- The identifier of a node, if it has one. -/
def id : TaxonomyNode → Option String
  | node id _ _ _ => id

def name : TaxonomyNode → Option String
  | node _ name _ _ => name

/-- The parent that a node names itself. -/
def parentId : TaxonomyNode → Option String
  | node _ _ parentId _ => parentId

/-- The nodes below a node. -/
def children : TaxonomyNode → List TaxonomyNode
  | node _ _ _ children => children

end TaxonomyNode

/-- The node at a place. -/
def nodeAt? : List TaxonomyNode → List Nat → Option TaxonomyNode
  | _, [] => none
  | nodes, [i] => nodes[i]?
  | nodes, i :: path => nodes[i]?.bind fun node => nodeAt? node.children path

/-- The same place one tree further. -/
def nextSibling : List Nat → List Nat
  | [] => []
  | i :: path => (i + 1) :: path

mutual
/-- The places of a node that stands first and of all nodes below it. -/
def placesOf : TaxonomyNode → List (List Nat)
  | .node _ _ _ children => [0] :: (places children).map (0 :: ·)

/-- The places of a forest. -/
def places : List TaxonomyNode → List (List Nat)
  | [] => []
  | node :: nodes => placesOf node ++ (places nodes).map nextSibling
end

section Places

variable {node enclosing : TaxonomyNode} {nodes : List TaxonomyNode} {path path' : List Nat}
variable {i : Nat}

/-- Induction on a forest: over what is below the first tree, and over the other trees. -/
theorem forest_induction {motive : List TaxonomyNode → Prop} (nil : motive [])
    (cons : ∀ node nodes, motive node.children → motive nodes → motive (node :: nodes))
    (nodes : List TaxonomyNode) : motive nodes :=
  @TaxonomyNode.rec_1 (fun node => motive node.children) motive
    (fun _ _ _ _ h => h) nil (fun node nodes hnode hnodes => cons node nodes hnode hnodes) nodes

theorem places_cons (node : TaxonomyNode) (nodes : List TaxonomyNode) :
    places (node :: nodes) =
      [0] :: (places node.children).map (0 :: ·) ++ (places nodes).map nextSibling := by
  cases node
  rw [places, placesOf]
  rfl

theorem flattenAll_cons (parent : Option String) (node : TaxonomyNode)
    (nodes : List TaxonomyNode) :
    flattenAll parent (node :: nodes) =
      { id := node.id.getD "", name := node.name.getD "", parentId := node.parentId.or parent } ::
        flattenAll (some (node.id.getD "")) node.children ++ flattenAll parent nodes := by
  cases node
  rw [flattenAll, TaxonomyNode.flatten, Option.orElse_eq_or]
  rfl

theorem nodeAt?_cons (h : path ≠ []) :
    nodeAt? nodes (i :: path) = nodes[i]?.bind fun node => nodeAt? node.children path := by
  cases path with
  | nil => exact absurd rfl h
  | cons j path => rfl

theorem nodeAt?_nextSibling (path : List Nat) :
    nodeAt? (node :: nodes) (nextSibling path) = nodeAt? nodes path := by
  cases path with
  | nil => rfl
  | cons i path =>
    cases path with
    | nil => rfl
    | cons j path => rfl

theorem ne_nil_of_nodeAt? (h : nodeAt? nodes path = some node) : path ≠ [] := by
  rintro rfl
  cases h

theorem nextSibling_eq_cons_iff : nextSibling path' = (i + 1) :: path ↔ path' = i :: path := by
  cases path' with
  | nil => simp [nextSibling]
  | cons j path' => simp [nextSibling]

theorem mem_places_iff : path ∈ places nodes ↔ (nodeAt? nodes path).isSome := by
  induction nodes using forest_induction generalizing path with
  | nil =>
    rcases path with _ | ⟨i, _ | ⟨j, path⟩⟩ <;> simp [places, nodeAt?]
  | cons node nodes ihchildren ihnodes =>
    rw [places_cons, List.mem_append, List.mem_cons, List.mem_map, List.mem_map]
    match path with
    | [] =>
      have hnil : [] ∉ places nodes := by
        rw [ihnodes]
        exact Bool.false_ne_true
      have hnext : ∀ path', nextSibling path' = [] → path' = [] := by
        rintro (_ | ⟨i, path'⟩) h
        · rfl
        · cases h
      simp only [nodeAt?, Option.isSome_none, Bool.false_eq_true, iff_false, not_or]
      refine ⟨⟨by simp, by simp⟩, ?_⟩
      rintro ⟨path', hmem, heq⟩
      exact hnil (hnext path' heq ▸ hmem)
    | [0] => simp [nodeAt?]
    | 0 :: j :: path =>
      have hnext : ∀ path', nextSibling path' ≠ 0 :: j :: path := by
        rintro (_ | ⟨i, path'⟩) h <;> simp [nextSibling] at h
      have hfirst : nodeAt? (node :: nodes) (0 :: j :: path) = nodeAt? node.children (j :: path) :=
        nodeAt?_cons (List.cons_ne_nil j path)
      rw [hfirst, ← ihchildren]
      simp [hnext]
    | (i + 1) :: path =>
      have hlater : nodeAt? (node :: nodes) ((i + 1) :: path) = nodeAt? nodes (i :: path) :=
        nodeAt?_nextSibling (i :: path)
      rw [hlater, ← ihnodes]
      simp [nextSibling_eq_cons_iff]

theorem ne_nil_of_mem_places (h : path ∈ places nodes) : path ≠ [] := by
  rw [mem_places_iff] at h
  rintro rfl
  cases h

theorem nextSibling_lt_nextSibling (h : path < path') : nextSibling path < nextSibling path' := by
  cases path with
  | nil =>
    cases path' with
    | nil => exact absurd h (lt_irrefl _)
    | cons j path' => exact List.nil_lt_cons _ _
  | cons i path =>
    cases path' with
    | nil => exact absurd h (List.not_lt_nil _)
    | cons j path' =>
      rcases List.cons_lt_cons_iff.1 h with hlt | ⟨rfl, hlt⟩
      · exact List.cons_lt_cons_iff.2 (.inl (Nat.succ_lt_succ hlt))
      · exact List.cons_lt_cons_iff.2 (.inr ⟨rfl, hlt⟩)

theorem cons_zero_lt_nextSibling (path : List Nat) (h : path' ≠ []) :
    0 :: path < nextSibling path' := by
  cases path' with
  | nil => exact absurd rfl h
  | cons j path' => exact List.cons_lt_cons_iff.2 (.inl (Nat.succ_pos j))

/-- The places come in their order, a node before all that is below it. -/
theorem pairwise_places (nodes : List TaxonomyNode) : (places nodes).Pairwise (· < ·) := by
  induction nodes using forest_induction with
  | nil => exact List.Pairwise.nil
  | cons node nodes ihchildren ihnodes =>
    rw [places_cons, List.pairwise_append]
    refine ⟨List.pairwise_cons.2 ⟨?_, ?_⟩, ?_, ?_⟩
    · intro path hpath
      obtain ⟨path', hmem, rfl⟩ := List.mem_map.1 hpath
      obtain ⟨j, rest, rfl⟩ := List.exists_cons_of_ne_nil (ne_nil_of_mem_places hmem)
      exact List.cons_lt_cons_iff.2 (.inr ⟨rfl, List.nil_lt_cons j rest⟩)
    · exact List.pairwise_map.2 (ihchildren.imp fun h => List.cons_lt_cons_iff.2 (.inr ⟨rfl, h⟩))
    · exact List.pairwise_map.2 (ihnodes.imp nextSibling_lt_nextSibling)
    · intro path hpath path' hpath'
      obtain ⟨later, hlater, rfl⟩ := List.mem_map.1 hpath'
      have hne := ne_nil_of_mem_places hlater
      rcases List.mem_cons.1 hpath with rfl | hpath
      · exact cons_zero_lt_nextSibling [] hne
      · obtain ⟨below, -, rfl⟩ := List.mem_map.1 hpath
        exact cons_zero_lt_nextSibling below hne

end Places

/-! ### The flat list -/

/-- The category that is listed for a place: with the parent that the node names, or else with the
node it stands in, or else with what the forest stands in. -/
inductive ListedAs (parent : Option String) (nodes : List TaxonomyNode) :
    List Nat → Category → Prop
  | top {i : Nat} {node : TaxonomyNode} (hnode : nodeAt? nodes [i] = some node) :
      ListedAs parent nodes [i]
        { id := node.id.getD "", name := node.name.getD "", parentId := node.parentId.or parent }
  | nested (path : List Nat) (i : Nat) {enclosing node : TaxonomyNode}
      (henclosing : nodeAt? nodes path = some enclosing)
      (hnode : nodeAt? nodes (path ++ [i]) = some node) :
      ListedAs parent nodes (path ++ [i])
        { id := node.id.getD ""
          name := node.name.getD ""
          parentId := some (node.parentId.getD (enclosing.id.getD "")) }

section Listed

variable {node : TaxonomyNode} {nodes : List TaxonomyNode} {path : List Nat} {category : Category}
variable {parent : Option String}

/-- What is listed below a node is listed of its forest, one step further down. -/
theorem ListedAs.below (h : ListedAs (some (node.id.getD "")) node.children path category) :
    ListedAs parent (node :: nodes) (0 :: path) category := by
  cases h with
  | @top i child hnode =>
    have hparent : child.parentId.or (some (node.id.getD "")) =
        some (child.parentId.getD (node.id.getD "")) := by
      cases child.parentId <;> rfl
    rw [hparent]
    exact .nested [0] _ rfl hnode
  | nested path i henclosing hnode =>
    refine .nested (0 :: path) i ?_ ?_
    · rw [nodeAt?_cons (ne_nil_of_nodeAt? henclosing)]
      exact henclosing
    · exact (nodeAt?_cons (by simp)).trans hnode

theorem ListedAs.later (h : ListedAs parent nodes path category) :
    ListedAs parent (node :: nodes) (nextSibling path) category := by
  cases h with
  | top hnode => exact .top hnode
  | nested path i henclosing hnode =>
    obtain ⟨j, rest, rfl⟩ := List.exists_cons_of_ne_nil (ne_nil_of_nodeAt? henclosing)
    refine .nested ((j + 1) :: rest) i ?_ ?_
    · exact (nodeAt?_nextSibling (j :: rest)).trans henclosing
    · exact (nodeAt?_nextSibling (j :: rest ++ [i])).trans hnode

theorem listedAs_flattenAll (parent : Option String) (nodes : List TaxonomyNode) :
    List.Forall₂ (ListedAs parent nodes) (places nodes) (flattenAll parent nodes) := by
  induction nodes using forest_induction generalizing parent with
  | nil => exact List.Forall₂.nil
  | cons node nodes ihchildren ihnodes =>
    rw [places_cons, flattenAll_cons]
    refine List.Forall₂.cons (.top rfl) (List.rel_append ?_ ?_)
    · exact List.forall₂_map_left_iff.2 ((ihchildren _).imp fun _ _ h => h.below)
    · exact List.forall₂_map_left_iff.2 ((ihnodes parent).imp fun _ _ h => h.later)

end Listed

end ShopSync.Etsy
