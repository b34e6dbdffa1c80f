import ShopSync.Proofs.Etsy.Forest

/-!
The taxonomy regrouped from its flat list.

Categories are regrouped by their parents: first those that have none, then below each of them those
that have it, and so on.  The flat list of a forest says which node a category stands in, and where
identifiers tell nodes apart that is enough: whatever was taken before, a node still finds the roots
of what is below it, in their order (`IsTidy.regroup_eq`).  So nothing of the forest is lost but
whether a name was missing or empty, and whether a parent was named (`flattenAll_regroups`).
-/

namespace ShopSync.Etsy

/-! ### Forests from flat lists -/

/-- The categories of a parent. -/
def takenBy (parent : Option String) (categories : List Category) : List Category :=
  categories.filter fun category => category.parentId = parent

/-- The categories of other parents. -/
def leftBy (parent : Option String) (categories : List Category) : List Category :=
  categories.filter fun category => category.parentId ≠ parent

theorem length_leftBy_lt {parent : Option String} {categories : List Category}
    (h : takenBy parent categories ≠ []) :
    (leftBy parent categories).length < categories.length := by
  obtain ⟨taken, htaken⟩ := List.exists_mem_of_ne_nil _ h
  have hparent := List.mem_filter.1 htaken
  exact List.length_filter_lt_length_iff_exists.2 ⟨taken, hparent.1, by simpa using hparent.2⟩

/-- The forest of the categories below a parent: those of the parent in the order of the list, and
below each of them what is left for it.  What a parent has taken is not taken again. -/
def regroup (parent : Option String) (categories : List Category) : List TaxonomyNode :=
  if _h : takenBy parent categories = [] then []
  else
    (takenBy parent categories).map fun category =>
      .node (some category.id) (some category.name) none
        (regroup (some category.id) (leftBy parent categories))
termination_by categories.length
decreasing_by exact length_leftBy_lt _h

mutual
/-- The node with a name, even an empty one, that names no parent. -/
def TaxonomyNode.settle : TaxonomyNode → TaxonomyNode
  | .node id name _ children => .node id (some (name.getD "")) none (settleAll children)

/-- The forest, with a name for every node, in which no node names its parent. -/
def settleAll : List TaxonomyNode → List TaxonomyNode
  | [] => []
  | node :: nodes => node.settle :: settleAll nodes
end

/-- In a forest that stands under a parent or under none, every node has an identifier, no two have
the same, and no node names another parent than what it stands in. -/
structure IsTidy (parent : Option String) (nodes : List TaxonomyNode) : Prop where
  identified : ∀ path node, nodeAt? nodes path = some node → node.id.isSome
  distinct : ∀ path path' node node', nodeAt? nodes path = some node →
    nodeAt? nodes path' = some node' → node.id = node'.id → path = path'
  top : ∀ i node, nodeAt? nodes [i] = some node → node.parentId = none ∨ node.parentId = parent
  nested : ∀ path i enclosing node, nodeAt? nodes path = some enclosing →
    nodeAt? nodes (path ++ [i]) = some node →
      node.parentId = none ∨ node.parentId = enclosing.id

/-- The category of a root of a forest that stands under a parent. -/
def TaxonomyNode.category (parent : Option String) (node : TaxonomyNode) : Category where
  id := node.id.getD ""
  name := node.name.getD ""
  parentId := node.parentId.or parent

/-- The identifiers under which the nodes of a forest are listed. -/
def keysOf (nodes : List TaxonomyNode) : List String :=
  (places nodes).map fun path => ((nodeAt? nodes path).bind TaxonomyNode.id).getD ""

section Regroup

variable {node : TaxonomyNode} {nodes : List TaxonomyNode} {path : List Nat} {category : Category}
variable {parent : Option String} {key : String}

theorem settleAll_eq_map (nodes : List TaxonomyNode) :
    settleAll nodes = nodes.map TaxonomyNode.settle := by
  induction nodes with
  | nil => rfl
  | cons node nodes ih => rw [settleAll, ih, List.map_cons]

theorem flattenAll_eq_flatMap (parent : Option String) (nodes : List TaxonomyNode) :
    flattenAll parent nodes = nodes.flatMap (TaxonomyNode.flatten parent) := by
  induction nodes with
  | nil => rfl
  | cons node nodes ih => rw [flattenAll, ih, List.flatMap_cons]

theorem flatten_eq (parent : Option String) (node : TaxonomyNode) :
    node.flatten parent =
      node.category parent :: flattenAll (some (node.id.getD "")) node.children := by
  cases node
  rw [TaxonomyNode.flatten, Option.orElse_eq_or]
  rfl

theorem exists_listedAs (h : category ∈ flattenAll parent nodes) :
    ∃ path, ListedAs parent nodes path category := by
  obtain ⟨i, hi, rfl⟩ := List.mem_iff_getElem.1 h
  have hall := listedAs_flattenAll parent nodes
  exact ⟨_, List.Forall₂.get hall (hall.length_eq ▸ hi) hi⟩

theorem map_id_flattenAll (parent : Option String) (nodes : List TaxonomyNode) :
    (flattenAll parent nodes).map Category.id = keysOf nodes := by
  have hkeys : List.Forall₂ (fun path category =>
      ((nodeAt? nodes path).bind TaxonomyNode.id).getD "" = category.id)
      (places nodes) (flattenAll parent nodes) := by
    refine (listedAs_flattenAll parent nodes).imp fun path category h => ?_
    cases h with
    | top hnode => rw [hnode]; rfl
    | nested _ _ _ hnode => rw [hnode]; rfl
  rw [keysOf, ← List.forall₂_eq_eq_eq, List.forall₂_map_left_iff, List.forall₂_map_right_iff]
  exact hkeys.flip.imp fun _ _ h => h.symm

theorem mem_keysOf (h : nodeAt? nodes path = some node) : node.id.getD "" ∈ keysOf nodes := by
  refine List.mem_map.2 ⟨path, mem_places_iff.2 (by rw [h]; rfl), ?_⟩
  rw [h]
  rfl

/-! #### Parts of a tidy forest -/

theorem nodeAt?_below {k : Nat} (hnode : nodes[k]? = some node) (hpath : path ≠ []) :
    nodeAt? nodes (k :: path) = nodeAt? node.children path := by
  rw [nodeAt?_cons hpath, hnode, Option.bind_some]

theorem IsTidy.children (h : IsTidy parent nodes) (hmem : node ∈ nodes) :
    IsTidy node.id node.children := by
  obtain ⟨k, hk⟩ := List.mem_iff_getElem?.1 hmem
  have hbelow {path : List Nat} {child : TaxonomyNode}
      (hchild : nodeAt? node.children path = some child) :
      nodeAt? nodes (k :: path) = some child :=
    (nodeAt?_below hk (ne_nil_of_nodeAt? hchild)).trans hchild
  refine ⟨fun path child hchild => h.identified _ child (hbelow hchild),
    fun path path' child child' hchild hchild' hid => ?_,
    fun i child hchild => h.nested [k] i node child hk (hbelow hchild),
    fun path i enclosing child henclosing hchild =>
      h.nested (k :: path) i enclosing child (hbelow henclosing) (hbelow hchild)⟩
  exact (List.cons.inj (h.distinct _ _ _ _ (hbelow hchild) (hbelow hchild') hid)).2

theorem IsTidy.id_eq (h : IsTidy parent nodes) (hmem : node ∈ nodes) :
    node.id = some (node.id.getD "") := by
  obtain ⟨k, hk⟩ := List.mem_iff_getElem?.1 hmem
  obtain ⟨id, hid⟩ := Option.isSome_iff_exists.1 (h.identified [k] node hk)
  rw [hid]
  rfl

theorem IsTidy.parentId_category (h : IsTidy parent nodes) (hmem : node ∈ nodes) :
    (node.category parent).parentId = parent := by
  obtain ⟨k, hk⟩ := List.mem_iff_getElem?.1 hmem
  change node.parentId.or parent = parent
  rcases h.top k node hk with hnone | hsame
  · rw [hnone, Option.none_or]
  · rw [hsame, Option.or_self]

/-- The identifiers tell the nodes of a tidy forest apart. -/
theorem IsTidy.nodup_keysOf (h : IsTidy parent nodes) : (keysOf nodes).Nodup := by
  refine List.Nodup.map_on (fun path hpath path' hpath' heq => ?_)
    ((pairwise_places nodes).imp fun hlt => hlt.ne)
  obtain ⟨node, hnode⟩ := Option.isSome_iff_exists.1 (mem_places_iff.1 hpath)
  obtain ⟨node', hnode'⟩ := Option.isSome_iff_exists.1 (mem_places_iff.1 hpath')
  obtain ⟨id, hid⟩ := Option.isSome_iff_exists.1 (h.identified path node hnode)
  obtain ⟨id', hid'⟩ := Option.isSome_iff_exists.1 (h.identified path' node' hnode')
  refine h.distinct path path' node node' hnode hnode' ?_
  simp only [hnode, hnode', Option.bind_some, hid, hid', Option.getD_some] at heq
  rw [hid, hid', heq]

/-- Every category of a tidy forest has the parent of the forest, or one of its nodes. -/
theorem IsTidy.parentId_eq (h : IsTidy parent nodes) (hmem : category ∈ flattenAll parent nodes) :
    category.parentId = parent ∨ ∃ key ∈ keysOf nodes, category.parentId = some key := by
  obtain ⟨path, hlisted⟩ := exists_listedAs hmem
  cases hlisted with
  | top hnode =>
    exact .inl (h.parentId_category (List.mem_of_getElem? hnode))
  | @nested path i enclosing node henclosing hnode =>
    refine .inr ⟨_, mem_keysOf henclosing, ?_⟩
    obtain ⟨id, hid⟩ := Option.isSome_iff_exists.1 (h.identified path enclosing henclosing)
    rcases h.nested path i enclosing node henclosing hnode with hnone | hsame
    · rw [hnone]
      rfl
    · rw [hsame, hid]
      rfl

/-! #### Taking the categories of a parent -/

theorem keysOf_eq_flatMap (nodes : List TaxonomyNode) :
    keysOf nodes = nodes.flatMap fun node => node.id.getD "" :: keysOf node.children := by
  rw [← map_id_flattenAll none, flattenAll_eq_flatMap, List.map_flatMap]
  refine List.flatMap_congr fun node _ => ?_
  rw [flatten_eq, List.map_cons, map_id_flattenAll]
  rfl

theorem mem_keysOf_of_mem (hmem : node ∈ nodes)
    (hkey : key ∈ node.id.getD "" :: keysOf node.children) : key ∈ keysOf nodes := by
  rw [keysOf_eq_flatMap]
  exact List.mem_flatMap.2 ⟨node, hmem, hkey⟩

theorem IsTidy.nodup_cons_keysOf (h : IsTidy parent nodes) (hmem : node ∈ nodes) :
    (node.id.getD "" :: keysOf node.children).Nodup := by
  have hall := h.nodup_keysOf
  rw [keysOf_eq_flatMap] at hall
  exact (List.nodup_flatMap.1 hall).1 node hmem

theorem IsTidy.children_key (h : IsTidy parent nodes) (hmem : node ∈ nodes) :
    IsTidy (some (node.id.getD "")) node.children := h.id_eq hmem ▸ h.children hmem

theorem IsTidy.parentId_of_mem_flatten (h : IsTidy parent nodes) (hmem : node ∈ nodes)
    (hcategory : category ∈ node.flatten parent) :
    category.parentId = parent ∨
      ∃ key ∈ node.id.getD "" :: keysOf node.children, category.parentId = some key := by
  rw [flatten_eq] at hcategory
  rcases List.mem_cons.1 hcategory with rfl | hbelow
  · exact .inl (h.parentId_category hmem)
  · rcases (h.children_key hmem).parentId_eq hbelow with hnode | ⟨key, hkey, hparent⟩
    · exact .inr ⟨_, List.mem_cons_self, hnode⟩
    · exact .inr ⟨key, List.mem_cons_of_mem _ hkey, hparent⟩

/-- What the parent of a forest takes are its roots. -/
theorem IsTidy.takenBy_parent (h : IsTidy parent nodes)
    (hfresh : ∀ key ∈ keysOf nodes, parent ≠ some key) :
    takenBy parent (flattenAll parent nodes) = nodes.map (TaxonomyNode.category parent) := by
  rw [takenBy, flattenAll_eq_flatMap, List.filter_flatMap, List.map_eq_flatMap]
  refine List.flatMap_congr fun node hmem => ?_
  have hkeys : ∀ key ∈ node.id.getD "" :: keysOf node.children, parent ≠ some key :=
    fun key hkey => hfresh key (mem_keysOf_of_mem hmem hkey)
  have hbelow : ∀ category ∈ flattenAll (some (node.id.getD "")) node.children,
      category.parentId ≠ parent := by
    intro category hcategory heq
    rcases (h.children_key hmem).parentId_eq hcategory with hnode | ⟨key, hkey, hparent⟩
    · exact hkeys _ List.mem_cons_self (heq.symm.trans hnode)
    · exact hkeys key (List.mem_cons_of_mem _ hkey) (heq.symm.trans hparent)
  rw [flatten_eq, List.filter_cons_of_pos (by simpa using h.parentId_category hmem),
    List.filter_eq_nil_iff.2 fun category hcategory => by simpa using hbelow category hcategory]

theorem IsTidy.takenBy_flatten_eq_nil (h : IsTidy parent nodes) (hmem : node ∈ nodes)
    (hparent : parent ≠ some key) (hapart : key ∉ node.id.getD "" :: keysOf node.children) :
    takenBy (some key) (node.flatten parent) = [] := by
  refine List.filter_eq_nil_iff.2 fun category hcategory => ?_
  rw [decide_eq_true_eq]
  intro heq
  rcases h.parentId_of_mem_flatten hmem hcategory with hsame | ⟨key', hkey', hsame⟩
  · exact hparent (hsame.symm.trans heq)
  · rw [hsame, Option.some_inj] at heq
    exact hapart (heq ▸ hkey')

/-- What a node of a forest takes, or one below it, is among the categories below that node. -/
theorem IsTidy.takenBy_key (h : IsTidy parent nodes)
    (hfresh : ∀ key ∈ keysOf nodes, parent ≠ some key) (hmem : node ∈ nodes)
    (hkey : key ∈ node.id.getD "" :: keysOf node.children) :
    takenBy (some key) (flattenAll parent nodes) =
      takenBy (some key) (flattenAll (some (node.id.getD "")) node.children) := by
  have hparent : parent ≠ some key := hfresh key (mem_keysOf_of_mem hmem hkey)
  have hroot : takenBy (some key) (node.flatten parent) =
      takenBy (some key) (flattenAll (some (node.id.getD "")) node.children) := by
    rw [flatten_eq]
    refine List.filter_cons_of_neg ?_
    rw [decide_eq_true_eq, h.parentId_category hmem]
    exact hparent
  -- no other tree has the key, in front of the node or behind it
  have hothers (others : List TaxonomyNode) (hin : ∀ other ∈ others, other ∈ nodes)
      (hapart : ∀ other ∈ others, key ∉ other.id.getD "" :: keysOf other.children) :
      takenBy (some key) (others.flatMap (TaxonomyNode.flatten parent)) = [] := by
    rw [takenBy, List.filter_flatMap, List.flatMap_eq_nil_iff]
    exact fun other hother =>
      h.takenBy_flatten_eq_nil (hin other hother) hparent (hapart other hother)
  have hnodup := h.nodup_keysOf
  obtain ⟨before, behind, hsplit⟩ := List.append_of_mem hmem
  rw [keysOf_eq_flatMap, hsplit, List.flatMap_append, List.flatMap_cons] at hnodup
  obtain ⟨-, hnodup, hapart⟩ := List.nodup_append.1 hnodup
  obtain ⟨-, -, hapart'⟩ := List.nodup_append.1 hnodup
  have hbefore := hothers before (fun other hin => by simp [hsplit, hin])
    fun other hin hin' => hapart key (List.mem_flatMap.2 ⟨other, hin, hin'⟩) key
      (List.mem_append_left _ hkey) rfl
  have hbehind := hothers behind (fun other hin => by simp [hsplit, hin])
    fun other hin hin' => hapart' key hkey key (List.mem_flatMap.2 ⟨other, hin, hin'⟩) rfl
  rw [takenBy] at hbefore hbehind
  rw [flattenAll_eq_flatMap, hsplit, List.flatMap_append, List.flatMap_cons, takenBy,
    List.filter_append, List.filter_append, hbefore, hbehind, List.nil_append, List.append_nil]
  exact hroot

theorem takenBy_leftBy {owner : Option String} (h : owner ≠ parent) (categories : List Category) :
    takenBy owner (leftBy parent categories) = takenBy owner categories := by
  rw [takenBy, leftBy, List.filter_filter, takenBy]
  refine List.filter_congr fun category _ => ?_
  by_cases heq : category.parentId = owner
  · simp [heq, h]
  · simp [heq]

/-- A list that has the categories of a tidy forest, wherever one of its nodes or its own parent
takes them, gives the forest. -/
theorem IsTidy.regroup_eq {categories : List Category} (h : IsTidy parent nodes)
    (hfresh : ∀ key ∈ keysOf nodes, parent ≠ some key)
    (hagrees : ∀ owner, (owner = parent ∨ ∃ key ∈ keysOf nodes, owner = some key) →
      takenBy owner categories = takenBy owner (flattenAll parent nodes)) :
    regroup parent categories = settleAll nodes := by
  have hroots := (hagrees parent (.inl rfl)).trans (h.takenBy_parent hfresh)
  fun_induction regroup parent categories generalizing nodes with
  | case1 parent categories hnone =>
    rw [hnone] at hroots
    rw [List.map_eq_nil_iff.1 hroots.symm]
    rfl
  | case2 parent categories hsome ih =>
    rw [hroots, List.map_map, settleAll_eq_map]
    refine List.map_congr_left fun node hmem => ?_
    have htidy := h.children_key hmem
    have hbelow : ∀ key ∈ keysOf node.children, some (node.id.getD "") ≠ some key := by
      rintro key hin heq
      rw [Option.some_inj] at heq
      exact (List.nodup_cons.1 (h.nodup_cons_keysOf hmem)).1 (heq ▸ hin)
    -- what is left has still all that is below the node
    have hleft : ∀ owner, (owner = some (node.id.getD "") ∨
        ∃ key ∈ keysOf node.children, owner = some key) →
          takenBy owner (leftBy parent categories) =
            takenBy owner (flattenAll (some (node.id.getD "")) node.children) := by
      intro owner howner
      obtain ⟨key, hin, rfl⟩ : ∃ key ∈ node.id.getD "" :: keysOf node.children,
          owner = some key := by
        rcases howner with rfl | ⟨key, hin, rfl⟩
        · exact ⟨_, List.mem_cons_self, rfl⟩
        · exact ⟨key, List.mem_cons_of_mem _ hin, rfl⟩
      have hkey := mem_keysOf_of_mem hmem hin
      rw [takenBy_leftBy (hfresh key hkey).symm, hagrees _ (.inr ⟨key, hkey, rfl⟩),
        h.takenBy_key hfresh hmem hin]
    have hchildren := ih (node.category parent) htidy hbelow hleft
      ((hleft _ (.inl rfl)).trans (htidy.takenBy_parent hbelow))
    have hsettle : node.settle =
        .node node.id (some (node.name.getD "")) none (settleAll node.children) := by
      cases node
      rw [TaxonomyNode.settle]
      rfl
    rw [hsettle, ← hchildren]
    exact congrArg (fun id => TaxonomyNode.node id _ none _) (h.id_eq hmem).symm

/-- Names that are given and parents that are not named stay as they are. -/
theorem settleAll_eq_self (h : ∀ path node, nodeAt? nodes path = some node →
    node.name.isSome ∧ node.parentId = none) : settleAll nodes = nodes := by
  induction nodes using forest_induction with
  | nil => rfl
  | cons node nodes ihchildren ihnodes =>
    obtain ⟨id, name, parentId, children⟩ := node
    have hchildren : settleAll children = children := ihchildren fun path child hchild =>
      h (0 :: path) child ((nodeAt?_cons (ne_nil_of_nodeAt? hchild)).trans hchild)
    have hnodes := ihnodes fun path other hother =>
      h (nextSibling path) other ((nodeAt?_nextSibling path).trans hother)
    obtain ⟨given, rfl⟩ : ∃ given, name = some given :=
      Option.isSome_iff_exists.1 (h [0] _ rfl).1
    obtain rfl : parentId = none := (h [0] _ rfl).2
    rw [settleAll, TaxonomyNode.settle, hchildren, hnodes, Option.getD_some]

end Regroup

/-- **The flat list of the taxonomy loses nothing.**  It has one category for every place of a
forest, in the order of the places: the identifier and the name of the node, empty when there is
none, and the parent that the node names, or else the node it stands in, so that only a root that
names no parent has none.  The categories of a forest whose identifiers are given and tell the nodes
apart, and in which no node names another parent than the node it stands in, are regrouped by their
parents to the same forest, with the children in their order. -/
theorem flattenAll_regroups (nodes : List TaxonomyNode) :
    (∃ order : List (List Nat), order.Pairwise (· < ·) ∧
      (∀ path, path ∈ order ↔ (nodeAt? nodes path).isSome) ∧
      List.Forall₂ (ListedAs none nodes) order (flattenAll none nodes)) ∧
    (IsTidy none nodes →
      regroup none (flattenAll none nodes) = settleAll nodes ∧
      ((∀ path node, nodeAt? nodes path = some node → node.name.isSome ∧ node.parentId = none) →
        regroup none (flattenAll none nodes) = nodes)) := by
  refine ⟨⟨places nodes, pairwise_places nodes, fun path => mem_places_iff,
    listedAs_flattenAll none nodes⟩, fun htidy => ?_⟩
  have hregroup : regroup none (flattenAll none nodes) = settleAll nodes :=
    htidy.regroup_eq (fun key _ h => nomatch h) fun _ _ => rfl
  exact ⟨hregroup, fun hplain => hregroup.trans (settleAll_eq_self hplain)⟩

/-- Two trees, the first of them three nodes deep: with a name that is missing, and a parent that is
named although it is the node around. -/
def sampleForest : List TaxonomyNode :=
  [.node (some "1") (some "Home") none
      [.node (some "2") none none [.node (some "3") (some "Mugs") none []],
        .node (some "4") (some "Vases") (some "1") []],
    .node (some "5") (some "Art") none []]

theorem isTidy_sampleForest : IsTidy none sampleForest := by
  have hplaces : places sampleForest = [[0], [0, 0], [0, 0, 0], [0, 1], [1]] := by decide
  have hcases {path : List Nat} {node : TaxonomyNode} (h : nodeAt? sampleForest path = some node) :
      path ∈ [[0], [0, 0], [0, 0, 0], [0, 1], [1]] := by
    rw [← hplaces, mem_places_iff, h]
    rfl
  refine ⟨fun path node h => ?_, fun path path' node node' h h' hid => ?_, fun i node h => ?_,
    fun path i enclosing node henclosing h => ?_⟩
  · have hpath := hcases h
    fin_cases hpath <;> cases h <;> rfl
  · have hpath := hcases h
    have hpath' := hcases h'
    fin_cases hpath <;> fin_cases hpath' <;> cases h <;> cases h' <;>
      first | rfl | exact absurd hid (by decide)
  · have hpath := hcases h
    simp only [List.mem_cons, List.cons.injEq, and_true, List.not_mem_nil, or_false,
      reduceCtorEq, and_false, false_or] at hpath
    rcases hpath with rfl | rfl <;> cases h <;> exact .inl rfl
  · have hout := hcases henclosing
    have hpath := hcases h
    fin_cases hout <;> cases henclosing <;> simp at hpath
    · rcases hpath with rfl | rfl <;> cases h
      · exact .inl rfl
      · exact .inr rfl
    · subst hpath
      cases h
      exact .inl rfl

/-- The list of a forest, and the forest that comes back. -/
theorem flattenAll_regroups_sampleForest :
    IsTidy none sampleForest ∧
      flattenAll none sampleForest =
        [{ id := "1", name := "Home" }, { id := "2", name := "", parentId := some "1" },
          { id := "3", name := "Mugs", parentId := some "2" },
          { id := "4", name := "Vases", parentId := some "1" }, { id := "5", name := "Art" }] ∧
      regroup none (flattenAll none sampleForest) =
        [.node (some "1") (some "Home") none
            [.node (some "2") (some "") none [.node (some "3") (some "Mugs") none []],
              .node (some "4") (some "Vases") none []],
          .node (some "5") (some "Art") none []] := by
  have hlist : flattenAll none sampleForest =
        [{ id := "1", name := "Home" }, { id := "2", name := "", parentId := some "1" },
          { id := "3", name := "Mugs", parentId := some "2" },
          { id := "4", name := "Vases", parentId := some "1" }, { id := "5", name := "Art" }] := by
    decide
  exact ⟨isTidy_sampleForest, hlist,
    ((flattenAll_regroups sampleForest).2 isTidy_sampleForest).1⟩

end ShopSync.Etsy
