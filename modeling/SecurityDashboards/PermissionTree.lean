import SecurityDashboards.Lib.PlainObject
import Mathlib.Data.List.Chain
import Mathlib.Logic.Relation

/-!
# The permission tree

`panels/permission-tree/permission-tree.tsx`: what a list of permissions comes to, group by group. Action
groups can contain each other, so the tree ends at `MAX_DEPTH`.
-/

namespace SecurityDashboards

/-- An action group, as far as the tree reads it. -/
structure ActionGroupItem where
  allowed_actions : List String
deriving DecidableEq

/-- `DataObject<ActionGroupItem>` -/
abbrev ActionGroups := Js.PlainObject ActionGroupItem

/-- A `Node` of `EuiTreeView`. Its id is its label. -/
inductive TreeNode where
  | mk (label : String) (children : Option (List TreeNode)) (className : String)

namespace TreeNode

def label : TreeNode → String
  | mk label _ _ => label

def className : TreeNode → String
  | mk _ _ className => className

end TreeNode

def MAX_DEPTH : ℕ := 5

/-- `actionGroups[name]?.allowed_actions`: what an object inherits has none. -/
def allowedActions (actionGroups : ActionGroups) (name : String) : Option (List String) :=
  (actionGroups.own name).map fun group => group.allowed_actions

/-- `isEmpty` of lodash. -/
def isEmpty (children : Option (List String)) : Bool := (children.getD []).isEmpty

/-- `buildTreeItem` with so many levels left below the item. -/
def buildTreeItemAbove (actionGroups : ActionGroups) : ℕ → String → TreeNode
  | 0, name => .mk name none "tree-leaf-node"
  | levels + 1, name =>
    let children := allowedActions actionGroups name
    .mk name (children.map fun names => names.map (buildTreeItemAbove actionGroups levels))
      (if isEmpty children then "tree-leaf-node" else "")

def buildTreeItem (name : String) (depth : ℕ) (actionGroups : ActionGroups) : TreeNode :=
  buildTreeItemAbove actionGroups (MAX_DEPTH - depth) name

/-- The items of `PermissionTree`. -/
def PermissionTree (permissions : List String) (actionGroups : ActionGroups) : List TreeNode :=
  permissions.map fun permission => buildTreeItem permission 0 actionGroups

/-- The recursion of the source. -/
theorem buildTreeItem_eq (name : String) (depth : ℕ) (actionGroups : ActionGroups) :
    buildTreeItem name depth actionGroups =
      let children := if depth < MAX_DEPTH then allowedActions actionGroups name else none
      .mk name
        (children.map fun names => names.map fun child => buildTreeItem child (depth + 1) actionGroups)
        (if isEmpty children then "tree-leaf-node" else "") := by
  unfold buildTreeItem
  by_cases hdepth : depth < MAX_DEPTH
  · rw [if_pos hdepth]
    obtain ⟨levels, hlevels⟩ : ∃ levels, MAX_DEPTH - depth = levels + 1 :=
      ⟨MAX_DEPTH - depth - 1, by omega⟩
    have hbelow : MAX_DEPTH - (depth + 1) = levels := by omega
    rw [hlevels, hbelow, buildTreeItemAbove]
  · have hend : MAX_DEPTH - depth = 0 := by omega
    rw [if_neg hdepth, hend, buildTreeItemAbove]
    rfl

/-! ## What the tree is for -/

/-- The group lists the permission, which may be a group again. -/
def Lists (actionGroups : ActionGroups) (group permission : String) : Prop :=
  ∃ names, allowedActions actionGroups group = some names ∧ permission ∈ names

/-- What the permissions grant, however deeply it is nested. -/
def Granted (permissions : List String) (actionGroups : ActionGroups) (name : String) : Prop :=
  ∃ permission ∈ permissions, Relation.ReflTransGen (Lists actionGroups) permission name

/-- The labels from one node down to another one. -/
inductive TreeNode.Path : TreeNode → List String → TreeNode → Prop where
  | here (node : TreeNode) : Path node [node.label] node
  | down {label : String} {children : List TreeNode} {className : String} {child node : TreeNode}
      {path : List String} (hchild : child ∈ children) (hpath : Path child path node) :
      Path (.mk label (some children) className) (label :: path) node

/-- The groups that list something. -/
def listingGroups (actionGroups : ActionGroups) : List String :=
  (actionGroups.props.filter fun group => group.2.allowed_actions ≠ []).map fun group => group.1

end SecurityDashboards
