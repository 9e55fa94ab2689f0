import SecurityDashboards.PermissionTree
import SecurityDashboards.Lib.Walks
import SecurityDashboards.Proofs.PlainObjectProofs

/-!
# Proofs: the permission tree
-/

namespace SecurityDashboards

open List

variable {actionGroups : ActionGroups}

@[simp] theorem label_buildTreeItemAbove (levels : ℕ) (name : String) :
    (buildTreeItemAbove actionGroups levels name).label = name := by
  cases levels <;> rfl

/-- An item is marked as a leaf at the last level, or if it lists nothing. -/
theorem className_buildTreeItemAbove (levels : ℕ) (name : String) :
    (buildTreeItemAbove actionGroups levels name).className = "tree-leaf-node" ↔
      levels = 0 ∨ ∀ permission, ¬Lists actionGroups name permission := by
  cases levels with
  | zero => exact iff_of_true rfl (Or.inl rfl)
  | succ levels =>
    have hclass : (buildTreeItemAbove actionGroups (levels + 1) name).className =
        if isEmpty (allowedActions actionGroups name) then "tree-leaf-node" else "" := rfl
    have hempty : isEmpty (allowedActions actionGroups name) = true ↔
        ∀ permission, ¬Lists actionGroups name permission := by
      unfold isEmpty Lists
      cases allowedActions actionGroups name with
      | none => exact iff_of_true rfl fun _ ⟨_, h, _⟩ => nomatch h
      | some names =>
        rw [Option.getD_some, List.isEmpty_iff, eq_nil_iff_forall_not_mem]
        exact forall_congr' fun permission =>
          not_congr ⟨fun h => ⟨names, rfl, h⟩, fun ⟨_, h, hmem⟩ => Option.some.inj h ▸ hmem⟩
    rw [hclass, ← hempty]
    by_cases h : isEmpty (allowedActions actionGroups name) = true
    · simp [h]
    · simp [h]

/-- The paths below an item are the walks from it that take no more steps than there are levels. -/
theorem path_buildTreeItemAbove {levels : ℕ} {name : String} {path : List String} {node : TreeNode} :
    (buildTreeItemAbove actionGroups levels name).Path path node ↔
      ∃ l, path = name :: l ∧ l.length ≤ levels ∧ IsChain (Lists actionGroups) (name :: l) ∧
        node = buildTreeItemAbove actionGroups (levels - l.length)
          (getLast (name :: l) (cons_ne_nil _ _)) := by
  induction levels generalizing name path node with
  | zero =>
    constructor
    · rintro (⟨⟩ | ⟨-, -⟩)
      exact ⟨[], rfl, Nat.le_refl 0, .singleton name, rfl⟩
    · rintro ⟨l, rfl, hlength, -, rfl⟩
      obtain rfl := length_eq_zero_iff.mp (Nat.le_zero.mp hlength)
      exact .here _
  | succ levels ih =>
    constructor
    · intro h
      generalize hitem : buildTreeItemAbove actionGroups (levels + 1) name = item at h
      cases h with
      | here =>
        rw [← hitem, label_buildTreeItemAbove]
        exact ⟨[], rfl, Nat.zero_le _, .singleton name, rfl⟩
      | @down label children className child _ path hchild hpath =>
        simp only [buildTreeItemAbove, TreeNode.mk.injEq] at hitem
        obtain ⟨rfl, hchildren, -⟩ := hitem
        obtain ⟨names, hnames, rfl⟩ := Option.map_eq_some_iff.mp hchildren
        obtain ⟨permission, hmem, rfl⟩ := mem_map.mp hchild
        obtain ⟨l, rfl, hlength, hchain, rfl⟩ := ih.mp hpath
        refine ⟨permission :: l, rfl, Nat.succ_le_succ hlength,
          .cons_cons ⟨names, hnames, hmem⟩ hchain, ?_⟩
        rw [length_cons, Nat.add_sub_add_right, getLast_cons_cons]
    · rintro ⟨l, rfl, hlength, hchain, rfl⟩
      cases l with
      | nil =>
        have hhere := TreeNode.Path.here (buildTreeItemAbove actionGroups (levels + 1) name)
        rwa [label_buildTreeItemAbove] at hhere
      | cons permission l =>
        rw [isChain_cons_cons] at hchain
        obtain ⟨⟨names, hnames, hmem⟩, hchain⟩ := hchain
        have hpath : (buildTreeItemAbove actionGroups levels permission).Path (permission :: l) _ :=
          ih.mpr ⟨l, rfl, Nat.le_of_succ_le_succ hlength, hchain, rfl⟩
        rw [length_cons, Nat.add_sub_add_right, getLast_cons_cons, buildTreeItemAbove, hnames]
        exact .down (mem_map_of_mem hmem) hpath

/-- The paths of the tree are the walks through the groups with at most six names. A leaf is marked where
nothing is listed, and where the tree ends. -/
theorem paths_of_PermissionTree (permissions : List String) (actionGroups : ActionGroups)
    (path : List String) (marked : Prop) :
    (∃ root ∈ PermissionTree permissions actionGroups, ∃ node, root.Path path node ∧
        (node.className = "tree-leaf-node" ↔ marked)) ↔
      ∃ h : path ≠ [], path.head h ∈ permissions ∧ IsChain (Lists actionGroups) path ∧
        path.length ≤ 6 ∧
          (marked ↔ path.length = 6 ∨ ∀ name, ¬Lists actionGroups (path.getLast h) name) := by
  constructor
  · rintro ⟨root, hroot, node, hpath, hmarked⟩
    obtain ⟨permission, hmem, rfl⟩ := mem_map.mp hroot
    obtain ⟨l, rfl, hlength, hchain, rfl⟩ := path_buildTreeItemAbove.mp hpath
    refine ⟨cons_ne_nil _ _, hmem, hchain, Nat.succ_le_succ hlength, ?_⟩
    rw [← hmarked, className_buildTreeItemAbove, length_cons]
    refine or_congr ?_ Iff.rfl
    change l.length ≤ 5 at hlength
    change 5 - l.length = 0 ↔ l.length + 1 = 6
    omega
  · rintro ⟨hne, hhead, hchain, hlength, hmarked⟩
    cases path with
    | nil => exact absurd rfl hne
    | cons permission l =>
      have hl : l.length ≤ 5 := Nat.le_of_succ_le_succ hlength
      refine ⟨_, mem_map_of_mem hhead, _, path_buildTreeItemAbove.mpr ⟨l, rfl, hl, hchain, rfl⟩, ?_⟩
      rw [className_buildTreeItemAbove, hmarked, length_cons]
      refine or_congr ?_ Iff.rfl
      change 5 - l.length = 0 ↔ l.length + 1 = 6
      omega

theorem mem_listingGroups {group permission : String} (h : Lists actionGroups group permission) :
    group ∈ listingGroups actionGroups := by
  obtain ⟨names, hnames, hmem⟩ := h
  obtain ⟨item, hitem, rfl⟩ := Option.map_eq_some_iff.mp hnames
  refine mem_map.mpr ⟨(group, item), mem_filter.mpr ⟨?_, ?_⟩, rfl⟩
  · exact Js.PlainObject.own_eq_some_iff.mp hitem
  · simpa using ne_nil_of_mem hmem

/-- With at most five groups that list something, the tree shows all that is granted and nothing else,
even if the groups contain each other. -/
theorem PermissionTree_shows_granted (permissions : List String) {actionGroups : ActionGroups}
    (hgroups : (listingGroups actionGroups).length ≤ 5) (name : String) :
    (∃ root ∈ PermissionTree permissions actionGroups, ∃ path node, root.Path path node ∧
        node.label = name) ↔ Granted permissions actionGroups name := by
  constructor
  · rintro ⟨root, hroot, path, node, hpath, rfl⟩
    obtain ⟨permission, hmem, rfl⟩ := mem_map.mp hroot
    obtain ⟨l, -, -, hchain, rfl⟩ := path_buildTreeItemAbove.mp hpath
    refine ⟨permission, hmem, ?_⟩
    rw [label_buildTreeItemAbove]
    exact relationReflTransGen_of_exists_isChain_cons l hchain rfl
  · rintro ⟨permission, hmem, hreach⟩
    obtain ⟨l, hchain, hlast, hnodup⟩ := Walks.exists_nodup hreach
    have hlength : l.length ≤ 5 := (Walks.length_le (fun _ _ h => mem_listingGroups h) hchain
      hnodup).trans hgroups
    refine ⟨_, mem_map_of_mem hmem, permission :: l, _,
      path_buildTreeItemAbove.mpr ⟨l, rfl, hlength, hchain, rfl⟩, ?_⟩
    rw [label_buildTreeItemAbove, hlast]

/-- Two groups that contain each other. -/
def Sample.nestedGroups : ActionGroups where
  props := [("crud", { allowed_actions := ["read", "index"] }),
    ("read", { allowed_actions := ["search", "crud"] })]
  nodup := by decide

theorem Sample.nested_groups_shown :
    (∃ root ∈ PermissionTree ["read"] Sample.nestedGroups, ∃ path node, root.Path path node ∧
        node.label = "index") ↔ Granted ["read"] Sample.nestedGroups "index" :=
  PermissionTree_shows_granted ["read"] (by decide) "index"

end SecurityDashboards
