import OpenJfxWeb.WebCore.ScrollingTreeScrollingNode

/-!
# Dumping a scrolling node

`dumpProperties` writes the node's properties to a `TextStream` as labelled lines, after
those of `ScrollingTreeNode::dumpProperties`, which is not among the sources.  It always
writes the sizes and the scroll position, and writes the rubber-band size, the reachable
size, the origin and the snap data only when they differ from their usual value.

Two labels in the source name the wrong property: the scroll position and the origin
are written as `scrollable area size`, and the vertical snap offsets as
`horizontal snap offsets`.  The model keeps the labels as written.

The result is that after any run of commits in which no contents size arrives during a
rubber band, the dump has no rubber-band line
(`dumpProperties_commitRun_noRubberBandLine`).
-/

namespace OpenJfxWeb
namespace WebCore

/-- A value `TextStream` prints in a dump. -/
inductive DumpValue (F : Type) where
  | size (value : FloatSize F)
  | point (value : FloatPoint F)
  | intPoint (value : IntPoint)
  | offsets (value : List F)
  | index (value : UInt32)
  deriving DecidableEq, Repr

namespace ScrollingTreeScrollingNode

variable {F P : Type}

/-- Successive commits of `commitStateBeforeChildren`, each with whether a rubber band
was in progress when it ran. -/
def commitRun (cssScrollSnap : Bool) (node : ScrollingTreeScrollingNode F P) :
    List (Bool × ScrollingStateScrollingNode F P) → ScrollingTreeScrollingNode F P
  | [] => node
  | (isRubberBandInProgress, state) :: commits =>
    commitRun cssScrollSnap
      (commitStateBeforeChildren cssScrollSnap isRubberBandInProgress node state) commits

/-- `dumpProperties`: the lines it writes, label and value, after the base class's. -/
def dumpProperties [DecidableEq F] (cssScrollSnap : Bool) (node : ScrollingTreeScrollingNode F P) :
    List (String × DumpValue F) :=
  [("scrollable area size", .size node.m_scrollableAreaSize),
    ("total content size", .size node.m_totalContentsSize)] ++
  (if node.m_totalContentsSizeForRubberBand != node.m_totalContentsSize then
    [("total content size for rubber band", .size node.m_totalContentsSizeForRubberBand)]
  else []) ++
  (if node.m_reachableContentsSize != node.m_totalContentsSize then
    [("reachable content size", .size node.m_reachableContentsSize)] else []) ++
  [("scrollable area size", .point node.m_lastCommittedScrollPosition)] ++
  (if node.m_scrollOrigin != ⟨0, 0⟩ then
    [("scrollable area size", .intPoint node.m_scrollOrigin)] else []) ++
  (if cssScrollSnap then
    (if node.m_snapOffsetsInfo.horizontalSnapOffsets.length != 0 then
      [("horizontal snap offsets", .offsets node.m_snapOffsetsInfo.horizontalSnapOffsets)]
    else []) ++
    (if node.m_snapOffsetsInfo.verticalSnapOffsets.length != 0 then
      [("horizontal snap offsets", .offsets node.m_snapOffsetsInfo.verticalSnapOffsets)]
    else []) ++
    (if node.m_currentHorizontalSnapPointIndex != 0 then
      [("current horizontal snap point index", .index node.m_currentHorizontalSnapPointIndex)]
    else []) ++
    (if node.m_currentVerticalSnapPointIndex != 0 then
      [("current vertical snap point index", .index node.m_currentVerticalSnapPointIndex)]
    else [])
  else [])

/-! ## The rubber-band size over runs of commits -/

/-- The rubber-band size agrees with the contents size. -/
def RubberBandSynced (node : ScrollingTreeScrollingNode F P) : Prop :=
  node.m_totalContentsSizeForRubberBand = node.m_totalContentsSize

/-- A commit keeps the rubber-band size in step unless it brings a contents size while a
rubber band is in progress. -/
theorem commitStateBeforeChildren_rubberBandSynced
    {cssScrollSnap isRubberBandInProgress : Bool} {node : ScrollingTreeScrollingNode F P}
    {state : ScrollingStateScrollingNode F P} (h : RubberBandSynced node)
    (hc : isRubberBandInProgress = true → state.hasChangedProperty .totalContentsSize = false) :
    RubberBandSynced
      (commitStateBeforeChildren cssScrollSnap isRubberBandInProgress node state) := by
  unfold RubberBandSynced at h ⊢
  rw [commitStateBeforeChildren_eq]
  cases hs : state.hasChangedProperty .totalContentsSize
  · simpa only [hs, Bool.false_eq_true, if_false] using h
  · cases isRubberBandInProgress
    · simp only [hs, Bool.false_eq_true, if_true, if_false]
    · exact absurd (hc rfl) (by simp [hs])

theorem commitRun_rubberBandSynced {cssScrollSnap : Bool} {node : ScrollingTreeScrollingNode F P}
    (h : RubberBandSynced node) (commits : List (Bool × ScrollingStateScrollingNode F P))
    (hc : ∀ c ∈ commits, c.1 = true → c.2.hasChangedProperty .totalContentsSize = false) :
    RubberBandSynced (commitRun cssScrollSnap node commits) := by
  induction commits generalizing node with
  | nil => exact h
  | cons c commits ih =>
    exact ih (commitStateBeforeChildren_rubberBandSynced h (hc c (List.mem_cons_self _ _)))
      fun c' hc' => hc c' (List.mem_cons_of_mem _ hc')

variable [DecidableEq F]

/-- A node whose rubber-band size is in step dumps no rubber-band line. -/
theorem dumpProperties_of_rubberBandSynced (cssScrollSnap : Bool)
    {node : ScrollingTreeScrollingNode F P} (h : RubberBandSynced node) :
    "total content size for rubber band" ∉ (dumpProperties cssScrollSnap node).map Prod.fst := by
  unfold RubberBandSynced at h
  simp [dumpProperties, h, apply_ite (List.map Prod.fst), List.mem_ite_nil_right]

/-- From a node whose rubber-band size is in step, after any run of commits in which no
contents size arrives during a rubber band, the dump has no rubber-band line. -/
theorem dumpProperties_commitRun_noRubberBandLine (cssScrollSnap : Bool)
    (node : ScrollingTreeScrollingNode F P)
    (h₀ : node.m_totalContentsSizeForRubberBand = node.m_totalContentsSize)
    (commits : List (Bool × ScrollingStateScrollingNode F P))
    (hc : ∀ c ∈ commits, c.1 = true → c.2.hasChangedProperty .totalContentsSize = false) :
    "total content size for rubber band" ∉
      (dumpProperties cssScrollSnap (commitRun cssScrollSnap node commits)).map Prod.fst :=
  dumpProperties_of_rubberBandSynced cssScrollSnap (commitRun_rubberBandSynced h₀ commits hc)

/-- A state that brings a new contents size, 800 by 2000. -/
def contentsSizeState : ScrollingStateScrollingNode Int Unit :=
  { scrollRequestState with changedProperties := fun p => p == .totalContentsSize }

theorem dumpProperties_commitRun_noRubberBandLine_resize :
    (originNode.m_totalContentsSizeForRubberBand = originNode.m_totalContentsSize ∧
      ∀ c ∈ [(false, contentsSizeState), (true, scrollRequestState)],
        c.1 = true → c.2.hasChangedProperty .totalContentsSize = false) ∧
    "total content size for rubber band" ∉ (dumpProperties true (commitRun true originNode
      [(false, contentsSizeState), (true, scrollRequestState)])).map Prod.fst :=
  have hc : ∀ c ∈ [(false, contentsSizeState), (true, scrollRequestState)],
      c.1 = true → c.2.hasChangedProperty .totalContentsSize = false := by decide
  ⟨⟨rfl, hc⟩, dumpProperties_commitRun_noRubberBandLine true originNode rfl _ hc⟩

end ScrollingTreeScrollingNode

end WebCore
end OpenJfxWeb
