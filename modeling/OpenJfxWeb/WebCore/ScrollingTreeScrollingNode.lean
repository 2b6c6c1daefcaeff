import Mathlib.Order.Basic

/-!
# Committing scrolling state

`ScrollingTreeScrollingNode::commitStateBeforeChildren` copies properties of a
`ScrollingStateScrollingNode` into the scrolling-tree node, each guarded by its own
change bit, and `commitStateAfterChildren` forwards a requested scroll to the tree.

The geometry is `float` in the source; here the scalar is a type parameter `F`, and
`ScrollableAreaParameters`, whose fields this file never reads, is a type parameter
`P`.  `ENABLE(CSS_SCROLL_SNAP)` is the flag `cssScrollSnap`, and
`scrollingTree().isRubberBandInProgress()` is the flag `isRubberBandInProgress`.

The theorem of this file is `commitStateBeforeChildren_copies_flagged`: every field
ends as its own getter when its own bit is set and as it was otherwise, for every set
of bits, and the rubber-band size reads the contents size from before the commit.
-/

namespace OpenJfxWeb
namespace WebCore

structure FloatSize (F : Type) where
  width : F
  height : F
  deriving DecidableEq, Repr

structure FloatPoint (F : Type) where
  x : F
  y : F
  deriving DecidableEq, Repr

structure IntPoint where
  x : Int
  y : Int
  deriving DecidableEq, Repr

/-- `ScrollOffsetRange<float>`. -/
structure ScrollOffsetRange (F : Type) where
  start : F
  «end» : F
  deriving DecidableEq, Repr

/-- `ScrollSnapOffsetsInfo<float>`. -/
@[ext] structure ScrollSnapOffsetsInfo (F : Type) where
  horizontalSnapOffsets : List F
  verticalSnapOffsets : List F
  horizontalSnapOffsetRanges : List (ScrollOffsetRange F)
  verticalSnapOffsetRanges : List (ScrollOffsetRange F)
  deriving DecidableEq, Repr

/-- `ScrollingNodeID`. -/
abbrev ScrollingNodeID := UInt64

/-- The `ChangedProperty` bits of `ScrollingStateScrollingNode` that this file tests;
the enum is declared in `ScrollingStateScrollingNode.h`, which is not among the
sources. -/
inductive ChangedProperty where
  | scrollableAreaSize
  | totalContentsSize
  | reachableContentsSize
  | scrollPosition
  | scrollOrigin
  | scrollableAreaParams
  | requestedScrollPosition
  | horizontalSnapOffsets
  | verticalSnapOffsets
  | horizontalSnapOffsetRanges
  | verticalSnapOffsetRanges
  | currentHorizontalSnapOffsetIndex
  | currentVerticalSnapOffsetIndex
  deriving DecidableEq, Repr

/-- `ScrollingStateScrollingNode`, by its getters and its change bits; any set of bits
is a function from properties to `Bool`. -/
structure ScrollingStateScrollingNode (F P : Type) where
  changedProperties : ChangedProperty → Bool
  scrollableAreaSize : FloatSize F
  totalContentsSize : FloatSize F
  reachableContentsSize : FloatSize F
  scrollPosition : FloatPoint F
  scrollOrigin : IntPoint
  horizontalSnapOffsets : List F
  verticalSnapOffsets : List F
  horizontalSnapOffsetRanges : List (ScrollOffsetRange F)
  verticalSnapOffsetRanges : List (ScrollOffsetRange F)
  currentHorizontalSnapPointIndex : UInt32
  currentVerticalSnapPointIndex : UInt32
  scrollableAreaParameters : P
  requestedScrollPosition : FloatPoint F
  requestedScrollPositionRepresentsProgrammaticScroll : Bool

namespace ScrollingStateScrollingNode

def hasChangedProperty {F P : Type} (state : ScrollingStateScrollingNode F P)
    (property : ChangedProperty) : Bool :=
  state.changedProperties property

end ScrollingStateScrollingNode

/-- The fields of `ScrollingTreeScrollingNode` the commit writes, and the node id. -/
@[ext] structure ScrollingTreeScrollingNode (F P : Type) where
  scrollingNodeID : ScrollingNodeID
  m_scrollableAreaSize : FloatSize F
  m_totalContentsSize : FloatSize F
  m_totalContentsSizeForRubberBand : FloatSize F
  m_reachableContentsSize : FloatSize F
  m_lastCommittedScrollPosition : FloatPoint F
  m_scrollOrigin : IntPoint
  m_snapOffsetsInfo : ScrollSnapOffsetsInfo F
  m_currentHorizontalSnapPointIndex : UInt32
  m_currentVerticalSnapPointIndex : UInt32
  m_scrollableAreaParameters : P

namespace ScrollingTreeScrollingNode

variable {F P : Type}

/-- `commitStateBeforeChildren`, one `let` per statement of the source. -/
def commitStateBeforeChildren (cssScrollSnap isRubberBandInProgress : Bool)
    (node : ScrollingTreeScrollingNode F P) (state : ScrollingStateScrollingNode F P) :
    ScrollingTreeScrollingNode F P :=
  let n := node
  let n := if state.hasChangedProperty .scrollableAreaSize then
    { n with m_scrollableAreaSize := state.scrollableAreaSize } else n
  let n := if state.hasChangedProperty .totalContentsSize then
    let n := if isRubberBandInProgress then
      { n with m_totalContentsSizeForRubberBand := n.m_totalContentsSize }
    else { n with m_totalContentsSizeForRubberBand := state.totalContentsSize }
    { n with m_totalContentsSize := state.totalContentsSize }
  else n
  let n := if state.hasChangedProperty .reachableContentsSize then
    { n with m_reachableContentsSize := state.reachableContentsSize } else n
  let n := if state.hasChangedProperty .scrollPosition then
    { n with m_lastCommittedScrollPosition := state.scrollPosition } else n
  let n := if state.hasChangedProperty .scrollOrigin then
    { n with m_scrollOrigin := state.scrollOrigin } else n
  let n := if cssScrollSnap then
    let n := if state.hasChangedProperty .horizontalSnapOffsets then
      { n with m_snapOffsetsInfo :=
        { n.m_snapOffsetsInfo with horizontalSnapOffsets := state.horizontalSnapOffsets } } else n
    let n := if state.hasChangedProperty .verticalSnapOffsets then
      { n with m_snapOffsetsInfo :=
        { n.m_snapOffsetsInfo with verticalSnapOffsets := state.verticalSnapOffsets } } else n
    let n := if state.hasChangedProperty .horizontalSnapOffsetRanges then
      { n with m_snapOffsetsInfo :=
        { n.m_snapOffsetsInfo with
          horizontalSnapOffsetRanges := state.horizontalSnapOffsetRanges } } else n
    let n := if state.hasChangedProperty .verticalSnapOffsetRanges then
      { n with m_snapOffsetsInfo :=
        { n.m_snapOffsetsInfo with
          verticalSnapOffsetRanges := state.verticalSnapOffsetRanges } } else n
    let n := if state.hasChangedProperty .currentHorizontalSnapOffsetIndex then
      { n with m_currentHorizontalSnapPointIndex := state.currentHorizontalSnapPointIndex }
    else n
    if state.hasChangedProperty .currentVerticalSnapOffsetIndex then
      { n with m_currentVerticalSnapPointIndex := state.currentVerticalSnapPointIndex } else n
  else n
  if state.hasChangedProperty .scrollableAreaParams then
    { n with m_scrollableAreaParameters := state.scrollableAreaParameters } else n

/-- `commitStateAfterChildren`: the scroll request it sends to the tree, if any. -/
def commitStateAfterChildren (node : ScrollingTreeScrollingNode F P)
    (state : ScrollingStateScrollingNode F P) :
    Option (ScrollingNodeID × FloatPoint F × Bool) :=
  if state.hasChangedProperty .requestedScrollPosition then
    some (node.scrollingNodeID, state.requestedScrollPosition,
      state.requestedScrollPositionRepresentsProgrammaticScroll)
  else none

/-! ## What a commit writes -/

/-- The node after `commitStateBeforeChildren`, field by field. -/
theorem commitStateBeforeChildren_eq (cssScrollSnap isRubberBandInProgress : Bool)
    (node : ScrollingTreeScrollingNode F P) (state : ScrollingStateScrollingNode F P) :
    commitStateBeforeChildren cssScrollSnap isRubberBandInProgress node state =
      { scrollingNodeID := node.scrollingNodeID
        m_scrollableAreaSize := if state.hasChangedProperty .scrollableAreaSize then
          state.scrollableAreaSize else node.m_scrollableAreaSize
        m_totalContentsSize := if state.hasChangedProperty .totalContentsSize then
          state.totalContentsSize else node.m_totalContentsSize
        m_totalContentsSizeForRubberBand := if state.hasChangedProperty .totalContentsSize then
          (if isRubberBandInProgress then node.m_totalContentsSize else state.totalContentsSize)
          else node.m_totalContentsSizeForRubberBand
        m_reachableContentsSize := if state.hasChangedProperty .reachableContentsSize then
          state.reachableContentsSize else node.m_reachableContentsSize
        m_lastCommittedScrollPosition := if state.hasChangedProperty .scrollPosition then
          state.scrollPosition else node.m_lastCommittedScrollPosition
        m_scrollOrigin := if state.hasChangedProperty .scrollOrigin then
          state.scrollOrigin else node.m_scrollOrigin
        m_snapOffsetsInfo :=
          { horizontalSnapOffsets :=
              if cssScrollSnap && state.hasChangedProperty .horizontalSnapOffsets then
              state.horizontalSnapOffsets else node.m_snapOffsetsInfo.horizontalSnapOffsets
            verticalSnapOffsets :=
              if cssScrollSnap && state.hasChangedProperty .verticalSnapOffsets then
              state.verticalSnapOffsets else node.m_snapOffsetsInfo.verticalSnapOffsets
            horizontalSnapOffsetRanges :=
              if cssScrollSnap && state.hasChangedProperty .horizontalSnapOffsetRanges then
              state.horizontalSnapOffsetRanges
              else node.m_snapOffsetsInfo.horizontalSnapOffsetRanges
            verticalSnapOffsetRanges :=
              if cssScrollSnap && state.hasChangedProperty .verticalSnapOffsetRanges then
              state.verticalSnapOffsetRanges else node.m_snapOffsetsInfo.verticalSnapOffsetRanges }
        m_currentHorizontalSnapPointIndex :=
          if cssScrollSnap && state.hasChangedProperty .currentHorizontalSnapOffsetIndex then
          state.currentHorizontalSnapPointIndex else node.m_currentHorizontalSnapPointIndex
        m_currentVerticalSnapPointIndex :=
          if cssScrollSnap && state.hasChangedProperty .currentVerticalSnapOffsetIndex then
          state.currentVerticalSnapPointIndex else node.m_currentVerticalSnapPointIndex
        m_scrollableAreaParameters := if state.hasChangedProperty .scrollableAreaParams then
          state.scrollableAreaParameters else node.m_scrollableAreaParameters } := by
  rw [ScrollingTreeScrollingNode.ext_iff, ScrollSnapOffsetsInfo.ext_iff]
  simp only [commitStateBeforeChildren, Bool.and_eq_true, ite_and, ite_self, and_self,
    apply_ite m_scrollableAreaSize, apply_ite m_totalContentsSize,
    apply_ite m_totalContentsSizeForRubberBand, apply_ite m_reachableContentsSize,
    apply_ite m_lastCommittedScrollPosition, apply_ite m_scrollOrigin,
    apply_ite m_scrollableAreaParameters, apply_ite m_snapOffsetsInfo,
    apply_ite m_currentHorizontalSnapPointIndex, apply_ite m_currentVerticalSnapPointIndex,
    apply_ite scrollingNodeID, apply_ite ScrollSnapOffsetsInfo.horizontalSnapOffsets,
    apply_ite ScrollSnapOffsetsInfo.verticalSnapOffsets,
    apply_ite ScrollSnapOffsetsInfo.horizontalSnapOffsetRanges,
    apply_ite ScrollSnapOffsetsInfo.verticalSnapOffsetRanges]

theorem commitStateBeforeChildren_copies_flagged (cssScrollSnap isRubberBandInProgress : Bool)
    (node : ScrollingTreeScrollingNode F P) (state : ScrollingStateScrollingNode F P) :
    let n := commitStateBeforeChildren cssScrollSnap isRubberBandInProgress node state
    n.m_scrollableAreaSize = (if state.hasChangedProperty .scrollableAreaSize then
      state.scrollableAreaSize else node.m_scrollableAreaSize) ∧
    n.m_totalContentsSize = (if state.hasChangedProperty .totalContentsSize then
      state.totalContentsSize else node.m_totalContentsSize) ∧
    n.m_totalContentsSizeForRubberBand = (if state.hasChangedProperty .totalContentsSize then
      (if isRubberBandInProgress then node.m_totalContentsSize else state.totalContentsSize)
      else node.m_totalContentsSizeForRubberBand) ∧
    n.m_reachableContentsSize = (if state.hasChangedProperty .reachableContentsSize then
      state.reachableContentsSize else node.m_reachableContentsSize) ∧
    n.m_lastCommittedScrollPosition = (if state.hasChangedProperty .scrollPosition then
      state.scrollPosition else node.m_lastCommittedScrollPosition) ∧
    n.m_scrollOrigin = (if state.hasChangedProperty .scrollOrigin then
      state.scrollOrigin else node.m_scrollOrigin) ∧
    n.m_scrollableAreaParameters = (if state.hasChangedProperty .scrollableAreaParams then
      state.scrollableAreaParameters else node.m_scrollableAreaParameters) ∧
    n.m_snapOffsetsInfo.horizontalSnapOffsets =
      (if cssScrollSnap && state.hasChangedProperty .horizontalSnapOffsets then
      state.horizontalSnapOffsets else node.m_snapOffsetsInfo.horizontalSnapOffsets) ∧
    n.m_snapOffsetsInfo.verticalSnapOffsets =
      (if cssScrollSnap && state.hasChangedProperty .verticalSnapOffsets then
      state.verticalSnapOffsets else node.m_snapOffsetsInfo.verticalSnapOffsets) ∧
    n.m_snapOffsetsInfo.horizontalSnapOffsetRanges =
      (if cssScrollSnap && state.hasChangedProperty .horizontalSnapOffsetRanges then
      state.horizontalSnapOffsetRanges else node.m_snapOffsetsInfo.horizontalSnapOffsetRanges) ∧
    n.m_snapOffsetsInfo.verticalSnapOffsetRanges =
      (if cssScrollSnap && state.hasChangedProperty .verticalSnapOffsetRanges then
      state.verticalSnapOffsetRanges else node.m_snapOffsetsInfo.verticalSnapOffsetRanges) ∧
    n.m_currentHorizontalSnapPointIndex =
      (if cssScrollSnap && state.hasChangedProperty .currentHorizontalSnapOffsetIndex then
      state.currentHorizontalSnapPointIndex else node.m_currentHorizontalSnapPointIndex) ∧
    n.m_currentVerticalSnapPointIndex =
      (if cssScrollSnap && state.hasChangedProperty .currentVerticalSnapOffsetIndex then
      state.currentVerticalSnapPointIndex else node.m_currentVerticalSnapPointIndex) ∧
    n.scrollingNodeID = node.scrollingNodeID := by
  rw [commitStateBeforeChildren_eq]
  exact ⟨rfl, rfl, rfl, rfl, rfl, rfl, rfl, rfl, rfl, rfl, rfl, rfl, rfl, rfl⟩

/-- A node at the origin with no snap offsets. -/
def originNode : ScrollingTreeScrollingNode Int Unit :=
  { scrollingNodeID := 1, m_scrollableAreaSize := ⟨0, 0⟩, m_totalContentsSize := ⟨0, 0⟩,
    m_totalContentsSizeForRubberBand := ⟨0, 0⟩, m_reachableContentsSize := ⟨0, 0⟩,
    m_lastCommittedScrollPosition := ⟨0, 0⟩, m_scrollOrigin := ⟨0, 0⟩,
    m_snapOffsetsInfo := ⟨[], [], [], []⟩, m_currentHorizontalSnapPointIndex := 0,
    m_currentVerticalSnapPointIndex := 0, m_scrollableAreaParameters := () }

/-- A state that only requests a programmatic scroll, with every getter moved. -/
def scrollRequestState : ScrollingStateScrollingNode Int Unit :=
  { changedProperties := fun p => p == .requestedScrollPosition,
    scrollableAreaSize := ⟨800, 600⟩, totalContentsSize := ⟨800, 2000⟩,
    reachableContentsSize := ⟨800, 2000⟩, scrollPosition := ⟨0, 40⟩, scrollOrigin := ⟨0, 0⟩,
    horizontalSnapOffsets := [0], verticalSnapOffsets := [0, 600],
    horizontalSnapOffsetRanges := [], verticalSnapOffsetRanges := [],
    currentHorizontalSnapPointIndex := 0, currentVerticalSnapPointIndex := 1,
    scrollableAreaParameters := (), requestedScrollPosition := ⟨0, 600⟩,
    requestedScrollPositionRepresentsProgrammaticScroll := true }

/-- Without a rubber band in progress, committing a state twice is committing it once. -/
theorem commitStateBeforeChildren_idem (cssScrollSnap : Bool)
    (node : ScrollingTreeScrollingNode F P) (state : ScrollingStateScrollingNode F P) :
    commitStateBeforeChildren cssScrollSnap false
        (commitStateBeforeChildren cssScrollSnap false node state) state =
      commitStateBeforeChildren cssScrollSnap false node state := by
  have twice : ∀ {α : Type} (c : Bool) (a b : α),
      (if c = true then a else if c = true then a else b) = if c = true then a else b := by
    intro _ c _ _; cases c <;> rfl
  rw [commitStateBeforeChildren_eq, commitStateBeforeChildren_eq]
  simp only [Bool.false_eq_true, if_false, twice]

end ScrollingTreeScrollingNode

end WebCore
end OpenJfxWeb
