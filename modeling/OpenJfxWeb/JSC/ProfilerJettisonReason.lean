import Mathlib.Tactic.DeriveFintype

/-!
# Printing a jettison reason

`printInternal` in `ProfilerJettisonReason.cpp` names each `JettisonReason` for the
profiler's output.  The switch covers every enumerator, so its
`RELEASE_ASSERT_NOT_REACHED` is unreachable, and no two reasons print alike.
-/

namespace OpenJfxWeb
namespace JSC
namespace Profiler

/-- `JettisonReason`, with the enumerators the switch names; the enum is declared in
`ProfilerJettisonReason.h`, which is not among the sources. -/
inductive JettisonReason where
  | notJettisoned
  | jettisonDueToWeakReference
  | jettisonDueToDebuggerBreakpoint
  | jettisonDueToDebuggerStepping
  | jettisonDueToBaselineLoopReoptimizationTrigger
  | jettisonDueToBaselineLoopReoptimizationTriggerOnOSREntryFail
  | jettisonDueToOSRExit
  | jettisonDueToProfiledWatchpoint
  | jettisonDueToUnprofiledWatchpoint
  | jettisonDueToOldAge
  deriving DecidableEq, Repr, Fintype

/-- `printInternal(PrintStream&, JettisonReason)`: the text it prints. -/
def printInternal : JettisonReason → String
  | .notJettisoned => "NotJettisoned"
  | .jettisonDueToWeakReference => "WeakReference"
  | .jettisonDueToDebuggerBreakpoint => "DebuggerBreakpoint"
  | .jettisonDueToDebuggerStepping => "DebuggerStepping"
  | .jettisonDueToBaselineLoopReoptimizationTrigger => "BaselineLoopReoptimizationTrigger"
  | .jettisonDueToBaselineLoopReoptimizationTriggerOnOSREntryFail =>
    "BaselineLoopReoptimizationTriggerOnOSREntryFail"
  | .jettisonDueToOSRExit => "OSRExit"
  | .jettisonDueToProfiledWatchpoint => "ProfiledWatchpoint"
  | .jettisonDueToUnprofiledWatchpoint => "UnprofiledWatchpoint"
  | .jettisonDueToOldAge => "JettisonDueToOldAge"

example : ∀ a b, printInternal a = printInternal b → a = b := by decide

end Profiler
end JSC
end OpenJfxWeb
