import OpenJfxWeb.WebCore.ScrollingTreeScrollingNode
import Mathlib.Data.Int.Order.Basic
import Mathlib.Order.Lattice

/-!
# Scrolling a node and updating its layers

`setScrollPosition` clamps the requested position between `minimumScrollPosition` and
`maximumScrollPosition` and passes it on to `setScrollPositionWithoutContentEdgeConstraints`,
which moves the scroll layer and tells the tree.  `updateLayersAfterAncestorChange`
forwards an ancestor's change to each child.

`FloatPoint.h` is not among the sources.  `constrainedBetween` and `expandedTo` are
taken axis by axis, `max min (min max v)` and `max v other`, as WebCore defines them;
the scalar is any linear order, so NaN is out of the model.  The calls a node makes on
its layer and on the tree are returned as a list.

The results are that every position `setScrollPosition` reports is in the node's scroll
range and that a position already in range is reported as given
(`setScrollPosition_inScrollRange`), and that a scrolling node hands an ancestor's change,
unchanged, to the first nodes below it that are not scrolling nodes, and does nothing
else (`updateLayersAfterAncestorChange_eq`).
-/

namespace OpenJfxWeb
namespace WebCore

/-- `FloatRect`, by its location and size. -/
structure FloatRect (F : Type) where
  location : FloatPoint F
  size : FloatSize F
  deriving DecidableEq, Repr

namespace FloatPoint

variable {F : Type}

/-- `operator-(const FloatPoint&, const FloatSize&)`. -/
instance [Sub F] : HSub (FloatPoint F) (FloatSize F) (FloatPoint F) :=
  ⟨fun p s => ⟨p.x - s.width, p.y - s.height⟩⟩

variable [LinearOrder F]

/-- `expandedTo`: the larger coordinate on each axis. -/
def expandedTo (p other : FloatPoint F) : FloatPoint F := ⟨max p.x other.x, max p.y other.y⟩

/-- `constrainedBetween`: each coordinate clamped between those of `minimum` and
`maximum`. -/
def constrainedBetween (p minimum maximum : FloatPoint F) : FloatPoint F :=
  ⟨max minimum.x (min maximum.x p.x), max minimum.y (min maximum.y p.y)⟩

end FloatPoint

/-- The calls that scrolling a node makes: `setScrollLayerPosition` on the node itself,
and `scrollingTreeNodeDidScroll` on its tree. -/
inductive ScrollCall (F : Type) where
  | setScrollLayerPosition (scrollPosition : FloatPoint F) (layoutViewport : FloatRect F)
  | scrollingTreeNodeDidScroll (nodeID : ScrollingNodeID) (scrollPosition : FloatPoint F)
      (layoutViewportOrigin : Option (FloatPoint F))
  deriving DecidableEq, Repr

/-- The position a call carries. -/
def ScrollCall.scrollPosition {F : Type} : ScrollCall F → FloatPoint F
  | .setScrollLayerPosition p _ => p
  | .scrollingTreeNodeDidScroll _ p _ => p

namespace ScrollingTreeScrollingNode

variable {F P : Type} [LinearOrder F] [Zero F] [Sub F]

/-- `minimumScrollPosition`: `FloatPoint()`. -/
def minimumScrollPosition (_node : ScrollingTreeScrollingNode F P) : FloatPoint F := ⟨0, 0⟩

/-- `maximumScrollPosition`: the contents size less the scrollable area size, at least
the origin. -/
def maximumScrollPosition (node : ScrollingTreeScrollingNode F P) : FloatPoint F :=
  let contentSizePoint : FloatPoint F :=
    ⟨node.m_totalContentsSize.width, node.m_totalContentsSize.height⟩
  (contentSizePoint - node.m_scrollableAreaSize).expandedTo ⟨0, 0⟩

/-- `setScrollPositionWithoutContentEdgeConstraints`: the layer moves with an empty
layout viewport, and the tree hears of it with no layout viewport origin. -/
def setScrollPositionWithoutContentEdgeConstraints (node : ScrollingTreeScrollingNode F P)
    (scrollPosition : FloatPoint F) : List (ScrollCall F) :=
  [.setScrollLayerPosition scrollPosition ⟨⟨0, 0⟩, ⟨0, 0⟩⟩,
    .scrollingTreeNodeDidScroll node.scrollingNodeID scrollPosition none]

/-- `setScrollPosition`. -/
def setScrollPosition (node : ScrollingTreeScrollingNode F P) (scrollPosition : FloatPoint F) :
    List (ScrollCall F) :=
  let newScrollPosition :=
    scrollPosition.constrainedBetween node.minimumScrollPosition node.maximumScrollPosition
  setScrollPositionWithoutContentEdgeConstraints node newScrollPosition

/-- Between the minimum and the maximum scroll position, on both axes. -/
def InScrollRange (node : ScrollingTreeScrollingNode F P) (p : FloatPoint F) : Prop :=
  node.minimumScrollPosition.x ≤ p.x ∧ p.x ≤ node.maximumScrollPosition.x ∧
    node.minimumScrollPosition.y ≤ p.y ∧ p.y ≤ node.maximumScrollPosition.y

/-! ## Clamping -/

omit [Zero F] [Sub F] in
theorem clamp_mem {lo hi : F} (h : lo ≤ hi) (v : F) :
    lo ≤ max lo (min hi v) ∧ max lo (min hi v) ≤ hi :=
  ⟨le_max_left _ _, max_le h (min_le_left _ _)⟩

omit [Zero F] [Sub F] in
theorem clamp_of_mem {lo hi v : F} (h₁ : lo ≤ v) (h₂ : v ≤ hi) : max lo (min hi v) = v := by
  rw [min_eq_right h₂, max_eq_right h₁]

/-- The scroll range is never empty: the maximum is at least the origin. -/
theorem minimum_le_maximum (node : ScrollingTreeScrollingNode F P) :
    node.minimumScrollPosition.x ≤ node.maximumScrollPosition.x ∧
      node.minimumScrollPosition.y ≤ node.maximumScrollPosition.y :=
  ⟨le_max_right _ _, le_max_right _ _⟩

/-- Every position `setScrollPosition` reports, to the layer and to the tree, is in the
node's scroll range, whatever was asked for; a position already in range goes through
as it is. -/
theorem setScrollPosition_inScrollRange (node : ScrollingTreeScrollingNode F P)
    (p : FloatPoint F) :
    (∀ c ∈ setScrollPosition node p, InScrollRange node c.scrollPosition) ∧
    (InScrollRange node p →
      setScrollPosition node p = setScrollPositionWithoutContentEdgeConstraints node p) := by
  obtain ⟨hx, hy⟩ := minimum_le_maximum node
  refine ⟨fun c hc => ?_, fun ⟨x₁, x₂, y₁, y₂⟩ => ?_⟩
  · have hr : InScrollRange node (p.constrainedBetween node.minimumScrollPosition
        node.maximumScrollPosition) :=
      ⟨(clamp_mem hx p.x).1, (clamp_mem hx p.x).2, (clamp_mem hy p.y).1, (clamp_mem hy p.y).2⟩
    simp only [setScrollPosition, setScrollPositionWithoutContentEdgeConstraints,
      List.mem_cons, List.mem_singleton, List.not_mem_nil, or_false] at hc
    rcases hc with rfl | rfl <;> exact hr
  · simp only [setScrollPosition, FloatPoint.constrainedBetween, clamp_of_mem x₁ x₂,
      clamp_of_mem y₁ y₂]

example : setScrollPosition { originNode with
      m_totalContentsSize := ⟨800, 2000⟩
      m_scrollableAreaSize := ⟨800, 600⟩ } ⟨-5, 1500⟩ =
      [.setScrollLayerPosition ⟨0, 1400⟩ ⟨⟨0, 0⟩, ⟨0, 0⟩⟩,
        .scrollingTreeNodeDidScroll 1 ⟨0, 1400⟩ none] := by decide

end ScrollingTreeScrollingNode

/-! ## Updating layers after an ancestor changed -/

/-- A node of the scrolling tree, as `updateLayersAfterAncestorChange` dispatches on it:
a node that runs `ScrollingTreeScrollingNode`'s version, with its `m_children`, or a node
of another kind (fixed, sticky, a subclass that overrides it), whose version is its own
code, outside the sources. -/
inductive ScrollingTreeNode (α : Type) where
  | scrollingNode (nodeID : ScrollingNodeID) (m_children : Option (List (ScrollingTreeNode α)))
  | otherNode (node : α)

namespace ScrollingTreeNode

variable {α β N F : Type} (update : α → N → FloatRect F → FloatSize F → List β)

mutual
/-- `updateLayersAfterAncestorChange` on a node: the scrolling node's loop over its
children, or the other node's own version, `update`. -/
def updateLayersAfterAncestorChange :
    ScrollingTreeNode α → N → FloatRect F → FloatSize F → List β
  | .scrollingNode _ none, _, _, _ => []
  | .scrollingNode _ (some children), changedNode, fixedPositionRect, cumulativeDelta =>
    updateChildren children changedNode fixedPositionRect cumulativeDelta
  | .otherNode node, changedNode, fixedPositionRect, cumulativeDelta =>
    update node changedNode fixedPositionRect cumulativeDelta

/-- The `for` loop over `*m_children`. -/
def updateChildren : List (ScrollingTreeNode α) → N → FloatRect F → FloatSize F → List β
  | [], _, _, _ => []
  | child :: children, changedNode, fixedPositionRect, cumulativeDelta =>
    updateLayersAfterAncestorChange child changedNode fixedPositionRect cumulativeDelta ++
      updateChildren children changedNode fixedPositionRect cumulativeDelta
end

/-- The nodes of other kinds that are reached from a node through scrolling nodes only,
in tree order. -/
def firstOtherNodes : ScrollingTreeNode α → List α
  | .scrollingNode _ none => []
  | .scrollingNode _ (some children) => children.attach.flatMap fun child => firstOtherNodes child.1
  | .otherNode node => [node]
decreasing_by simp_wf; have := List.sizeOf_lt_of_mem child.2; omega

theorem firstOtherNodes_scrollingNode (nodeID : ScrollingNodeID)
    (children : List (ScrollingTreeNode α)) :
    firstOtherNodes (.scrollingNode nodeID (some children)) = children.flatMap firstOtherNodes := by
  rw [firstOtherNodes, List.flatMap_def, List.flatMap_def, List.attach_map_val]

variable (changedNode : N) (fixedPositionRect : FloatRect F) (cumulativeDelta : FloatSize F)

/-- The loop over the children does, in order, what each child does. -/
theorem updateChildren_eq_flatMap {children : List (ScrollingTreeNode α)}
    (h : ∀ child ∈ children,
      updateLayersAfterAncestorChange update child changedNode fixedPositionRect cumulativeDelta =
        child.firstOtherNodes.flatMap (update · changedNode fixedPositionRect cumulativeDelta)) :
    updateChildren update children changedNode fixedPositionRect cumulativeDelta =
      (children.flatMap firstOtherNodes).flatMap
        (update · changedNode fixedPositionRect cumulativeDelta) := by
  induction children with
  | nil => rfl
  | cons child children ih =>
    rw [updateChildren, List.flatMap_cons, List.flatMap_append, h child (List.mem_cons_self _ _),
      ih fun c hc => h c (List.mem_cons_of_mem _ hc)]

/-- A scrolling node does nothing but hand the change, unchanged, to the first nodes
below it that are not scrolling nodes, each once and in tree order. -/
theorem updateLayersAfterAncestorChange_eq (node : ScrollingTreeNode α) :
    updateLayersAfterAncestorChange update node changedNode fixedPositionRect cumulativeDelta =
      node.firstOtherNodes.flatMap (update · changedNode fixedPositionRect cumulativeDelta) :=
  match node with
  | .scrollingNode _ none => by rw [firstOtherNodes]; rfl
  | .scrollingNode _ (some children) => by
    rw [updateLayersAfterAncestorChange, firstOtherNodes_scrollingNode]
    exact updateChildren_eq_flatMap update changedNode fixedPositionRect cumulativeDelta
      fun child _ => updateLayersAfterAncestorChange_eq child
  | .otherNode _ => by
    rw [updateLayersAfterAncestorChange, firstOtherNodes, List.flatMap_singleton]
termination_by node
decreasing_by simp_wf; have := List.sizeOf_lt_of_mem ‹child ∈ children›; omega

end ScrollingTreeNode

end WebCore
end OpenJfxWeb
