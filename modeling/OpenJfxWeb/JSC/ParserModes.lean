import Mathlib.Data.Nat.Bitwise
import Mathlib.Tactic.DeriveFintype

/-!
# Source parse modes and their bit sets

`ParserModes.h` gives each of the fifteen `SourceParseMode` enumerators its own bit
of a `uint16_t`, folds a variadic argument list into an `unsigned` mask with
`mergeSourceParseModes`, and answers `contains` with a bitwise and.  Every
`is*ParseMode` predicate is such a set applied to one mode.

The theorem this file exists for is `contains_make_iff`: the mask built from any
non-empty argument list contains a mode exactly when the mode occurs in the list.
It rests on two facts about the enumerators, `toUnsigned_toNat` (each is a single
bit) and `bitIndex_inj` (no two share one), and on `testBit_mergeSourceParseModes`,
which reads the fold one bit at a time.
-/

namespace OpenJfxWeb
namespace JSC

/-- `enum class SourceParseMode : uint16_t`. -/
inductive SourceParseMode where
  | normalFunctionMode
  | generatorBodyMode
  | generatorWrapperFunctionMode
  | getterMode
  | setterMode
  | methodMode
  | arrowFunctionMode
  | asyncFunctionBodyMode
  | asyncArrowFunctionBodyMode
  | asyncFunctionMode
  | asyncMethodMode
  | asyncArrowFunctionMode
  | programMode
  | moduleAnalyzeMode
  | moduleEvaluateMode
  deriving DecidableEq, Repr, Fintype

namespace SourceParseMode

/-- The enumerator values, as the declaration writes them. -/
def toUInt16 : SourceParseMode → UInt16
  | normalFunctionMode           => 0b0000000000000001
  | generatorBodyMode            => 0b0000000000000010
  | generatorWrapperFunctionMode => 0b0000000000000100
  | getterMode                   => 0b0000000000001000
  | setterMode                   => 0b0000000000010000
  | methodMode                   => 0b0000000000100000
  | arrowFunctionMode            => 0b0000000001000000
  | asyncFunctionBodyMode        => 0b0000000010000000
  | asyncArrowFunctionBodyMode   => 0b0000000100000000
  | asyncFunctionMode            => 0b0000001000000000
  | asyncMethodMode              => 0b0000010000000000
  | asyncArrowFunctionMode       => 0b0000100000000000
  | programMode                  => 0b0001000000000000
  | moduleAnalyzeMode            => 0b0010000000000000
  | moduleEvaluateMode           => 0b0100000000000000

/-- `static_cast<unsigned>(mode)`. -/
def toUnsigned (mode : SourceParseMode) : UInt32 := mode.toUInt16.toUInt32

/-- The position of the one bit an enumerator sets. -/
def bitIndex (mode : SourceParseMode) : Nat := mode.toCtorIdx

/-- Each enumerator is a single bit. -/
theorem toUnsigned_toNat (mode : SourceParseMode) : mode.toUnsigned.toNat = 2 ^ mode.bitIndex := by
  cases mode <;> rfl

/-- No two enumerators share their bit. -/
theorem bitIndex_inj : ∀ a b : SourceParseMode, a.bitIndex = b.bitIndex → a = b := by
  decide

end SourceParseMode

open SourceParseMode

/-! ## The mask -/

/-- `SourceParseModeSet`: the one field is the `unsigned` mask. -/
structure SourceParseModeSet where
  m_mask : UInt32

/-- `mergeSourceParseModes(mode, rest...)`.  The two overloads are the two equations:
the last argument is cast, every other one is or-ed onto the merge of the rest. -/
def mergeSourceParseModes : SourceParseMode → List SourceParseMode → UInt32
  | mode, [] => mode.toUnsigned
  | mode, next :: rest => mode.toUnsigned ||| mergeSourceParseModes next rest

namespace SourceParseModeSet

/-- The variadic constructor `SourceParseModeSet(Modes... args)`.  An empty pack does
not compile, since no overload of `mergeSourceParseModes` takes no argument, so the
first mode is separate. -/
def make (mode : SourceParseMode) (rest : List SourceParseMode) : SourceParseModeSet :=
  ⟨mergeSourceParseModes mode rest⟩

/-- `contains`: the `unsigned` conjunction, converted to `bool`. -/
def contains (s : SourceParseModeSet) (mode : SourceParseMode) : Bool :=
  (mode.toUnsigned &&& s.m_mask) != 0

theorem contains_eq_testBit (s : SourceParseModeSet) (mode : SourceParseMode) :
    s.contains mode = s.m_mask.toNat.testBit mode.bitIndex := by
  have zero_iff : ∀ a : UInt32, a = 0 ↔ a.toNat = 0 :=
    fun a => ⟨fun h => h ▸ rfl, fun h => UInt32.toNat.inj h⟩
  rw [contains, Bool.eq_iff_iff, bne_iff_ne, ne_eq, zero_iff, UInt32.and_toNat,
    toUnsigned_toNat, Nat.two_pow_and]
  cases s.m_mask.toNat.testBit mode.bitIndex <;> simp

theorem toNat_lor (a b : UInt32) : (a ||| b).toNat = a.toNat ||| b.toNat :=
  BitVec.toNat_or a.toBitVec b.toBitVec

/-- The fold, read one bit at a time: bit `i` of the mask is set exactly when some
argument's bit is `i`. -/
theorem testBit_mergeSourceParseModes (mode : SourceParseMode) (rest : List SourceParseMode)
    (i : Nat) :
    (mergeSourceParseModes mode rest).toNat.testBit i =
      (mode :: rest).any (fun m => decide (m.bitIndex = i)) := by
  induction rest generalizing mode with
  | nil => simp [mergeSourceParseModes, toUnsigned_toNat, Nat.testBit_two_pow]
  | cons next rest ih =>
    rw [mergeSourceParseModes, toNat_lor, Nat.testBit_or, ih, toUnsigned_toNat,
      Nat.testBit_two_pow]
    rfl

/-- A set built from any non-empty argument list contains exactly the listed modes. -/
theorem contains_make_iff (mode : SourceParseMode) (rest : List SourceParseMode)
    (m : SourceParseMode) : (make mode rest).contains m = true ↔ m ∈ mode :: rest := by
  rw [contains_eq_testBit, make, testBit_mergeSourceParseModes, List.any_eq_true]
  constructor
  · rintro ⟨x, hx, he⟩
    rwa [bitIndex_inj x m (of_decide_eq_true he)] at hx
  · exact fun h => ⟨m, h, decide_eq_true rfl⟩

end SourceParseModeSet

/-! ## The predicates

Every `is*ParseMode` is one `SourceParseModeSet` applied to its argument, so each
is `make` at its own argument list, in the order the source lists the modes. -/

open SourceParseModeSet

def isFunctionParseMode (parseMode : SourceParseMode) : Bool :=
  (make normalFunctionMode [generatorBodyMode, generatorWrapperFunctionMode, getterMode,
    setterMode, methodMode, arrowFunctionMode, asyncFunctionBodyMode, asyncFunctionMode,
    asyncMethodMode, asyncArrowFunctionMode, asyncArrowFunctionBodyMode]).contains parseMode

def isAsyncFunctionParseMode (parseMode : SourceParseMode) : Bool :=
  (make asyncFunctionBodyMode [asyncFunctionMode, asyncMethodMode, asyncArrowFunctionMode,
    asyncArrowFunctionBodyMode]).contains parseMode

def isAsyncArrowFunctionParseMode (parseMode : SourceParseMode) : Bool :=
  (make asyncArrowFunctionMode [asyncArrowFunctionBodyMode]).contains parseMode

def isAsyncFunctionWrapperParseMode (parseMode : SourceParseMode) : Bool :=
  (make asyncArrowFunctionMode [asyncFunctionMode, asyncMethodMode]).contains parseMode

def isAsyncFunctionBodyParseMode (parseMode : SourceParseMode) : Bool :=
  (make asyncFunctionBodyMode [asyncArrowFunctionBodyMode]).contains parseMode

/-- The source carries a `FIXME`: a generator wrapper is not guaranteed to be a
method, yet it is listed. -/
def isMethodParseMode (parseMode : SourceParseMode) : Bool :=
  (make generatorWrapperFunctionMode [getterMode, setterMode, methodMode,
    asyncMethodMode]).contains parseMode

def isGeneratorOrAsyncFunctionBodyParseMode (parseMode : SourceParseMode) : Bool :=
  (make generatorBodyMode [asyncFunctionBodyMode, asyncArrowFunctionBodyMode]).contains parseMode

def isGeneratorOrAsyncFunctionWrapperParseMode (parseMode : SourceParseMode) : Bool :=
  (make generatorWrapperFunctionMode [asyncFunctionMode, asyncArrowFunctionMode,
    asyncMethodMode]).contains parseMode

def isArrowFunctionParseMode (parseMode : SourceParseMode) : Bool :=
  (make arrowFunctionMode [asyncArrowFunctionMode, asyncArrowFunctionBodyMode]).contains parseMode

def isModuleParseMode (parseMode : SourceParseMode) : Bool :=
  (make moduleAnalyzeMode [moduleEvaluateMode]).contains parseMode

def isProgramParseMode (parseMode : SourceParseMode) : Bool :=
  (make programMode []).contains parseMode

/-- `ConstructAbility`, as far as `constructAbilityForParseMode` uses it. -/
inductive ConstructAbility where
  | canConstruct
  | cannotConstruct
  deriving DecidableEq, Repr

def constructAbilityForParseMode (parseMode : SourceParseMode) : ConstructAbility :=
  if parseMode = normalFunctionMode then .canConstruct else .cannotConstruct

/-- `enum class FunctionMode`. -/
inductive FunctionMode where
  | functionExpression
  | functionDeclaration
  | methodDefinition
  deriving DecidableEq, Repr

/-- An `Identifier`, by its text; `none` is the null identifier. -/
structure Identifier where
  impl : Option String
  deriving DecidableEq, Repr

def Identifier.isNull (name : Identifier) : Bool := name.impl.isNone

def functionNameIsInScope (name : Identifier) (functionMode : FunctionMode) : Bool :=
  if name.isNull then false
  else if functionMode != .functionExpression then false
  else true

def functionNameScopeIsDynamic (usesEval isStrictMode : Bool) : Bool :=
  if !usesEval then false
  else if isStrictMode then false
  else true

/-! ## Membership

The mask semantics of every argument list, and with it the exact mode list of each
predicate. -/

theorem contains_iff_mem_arguments :
    (∀ (mode : SourceParseMode) (rest : List SourceParseMode) (m : SourceParseMode),
      (make mode rest).contains m = true ↔ m ∈ mode :: rest) ∧
    (∀ m, isFunctionParseMode m = true ↔ m ∈ [normalFunctionMode, generatorBodyMode,
      generatorWrapperFunctionMode, getterMode, setterMode, methodMode, arrowFunctionMode,
      asyncFunctionBodyMode, asyncFunctionMode, asyncMethodMode, asyncArrowFunctionMode,
      asyncArrowFunctionBodyMode]) ∧
    (∀ m, isAsyncFunctionParseMode m = true ↔ m ∈ [asyncFunctionBodyMode, asyncFunctionMode,
      asyncMethodMode, asyncArrowFunctionMode, asyncArrowFunctionBodyMode]) ∧
    (∀ m, isAsyncArrowFunctionParseMode m = true ↔
      m ∈ [asyncArrowFunctionMode, asyncArrowFunctionBodyMode]) ∧
    (∀ m, isAsyncFunctionWrapperParseMode m = true ↔
      m ∈ [asyncArrowFunctionMode, asyncFunctionMode, asyncMethodMode]) ∧
    (∀ m, isAsyncFunctionBodyParseMode m = true ↔
      m ∈ [asyncFunctionBodyMode, asyncArrowFunctionBodyMode]) ∧
    (∀ m, isMethodParseMode m = true ↔ m ∈ [generatorWrapperFunctionMode, getterMode,
      setterMode, methodMode, asyncMethodMode]) ∧
    (∀ m, isGeneratorOrAsyncFunctionBodyParseMode m = true ↔
      m ∈ [generatorBodyMode, asyncFunctionBodyMode, asyncArrowFunctionBodyMode]) ∧
    (∀ m, isGeneratorOrAsyncFunctionWrapperParseMode m = true ↔ m ∈ [generatorWrapperFunctionMode,
      asyncFunctionMode, asyncArrowFunctionMode, asyncMethodMode]) ∧
    (∀ m, isArrowFunctionParseMode m = true ↔
      m ∈ [arrowFunctionMode, asyncArrowFunctionMode, asyncArrowFunctionBodyMode]) ∧
    (∀ m, isModuleParseMode m = true ↔ m ∈ [moduleAnalyzeMode, moduleEvaluateMode]) ∧
    (∀ m, isProgramParseMode m = true ↔ m ∈ [programMode]) :=
  ⟨contains_make_iff, fun _ => contains_make_iff .., fun _ => contains_make_iff ..,
    fun _ => contains_make_iff .., fun _ => contains_make_iff .., fun _ => contains_make_iff ..,
    fun _ => contains_make_iff .., fun _ => contains_make_iff .., fun _ => contains_make_iff ..,
    fun _ => contains_make_iff .., fun _ => contains_make_iff .., fun _ => contains_make_iff ..⟩

/- The tables over all fifteen modes: function, module and program modes partition the
enumeration, the async modes are the wrappers and the bodies, and only a normal function
constructs.  `isMethodParseMode` holds for the generator wrapper of any generator, which
the source's `FIXME` says is not always a method. -/

example :
    ∀ m, [isFunctionParseMode m, isModuleParseMode m, isProgramParseMode m].count true = 1 := by
  decide

example : ∀ m, isAsyncFunctionParseMode m =
    (isAsyncFunctionWrapperParseMode m || isAsyncFunctionBodyParseMode m) := by
  decide

example : ∀ m, constructAbilityForParseMode m = .canConstruct ↔ m = normalFunctionMode := by
  decide

example : isMethodParseMode generatorWrapperFunctionMode = true := by decide

end JSC
end OpenJfxWeb
