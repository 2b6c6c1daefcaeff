import OpenJfxWeb.WebCore.QualifiedNameHash

/-!
# The uppercased local name over runs

`m_localNameUpper` is the second `mutable` cache of a `QualifiedNameImpl`: null until
`localNameUpper` fills it from the local name.  The runs are those of
`QualifiedNameHash.lean`, interleaving creations, hash calls and `localNameUpper` calls.

Every operation keeps a property of impls that creation and both fills keep, and moves
no impl's components (`run_preserves`).  With the property "the uppercase cache is null
or the uppercased local name", `localNameUpper` answers the uppercased local name in
every state a run reaches (`localNameUpper_run_returns_uppercase`).
-/

namespace OpenJfxWeb
namespace WebCore

section Run

variable {hashMemory : QualifiedNameComponents → UInt32}

/-! ## Properties every operation keeps -/

/-- A property of impls that creation and both cache fills keep. -/
structure ImplInvariant (hashMemory : QualifiedNameComponents → UInt32)
    (Ok : QualifiedNameImpl → Prop) : Prop where
  create : ∀ pfx localName namespaceURI, Ok (QualifiedNameImpl.create pfx localName namespaceURI)
  fillHash : ∀ i, Ok i → Ok (i.fillHash hashMemory)
  fillLocalNameUpper : ∀ i, Ok i → Ok i.fillLocalNameUpper

variable {Ok : QualifiedNameImpl → Prop}

theorem answer_preserves {α : Type} (f : α → Reply) {h : Heap} (p : Nat)
    (g : QualifiedNameImpl → α) {k : QualifiedNameImpl → QualifiedNameImpl}
    (hk : ∀ i, (k i).components = i.components) (hok : ∀ i, Ok i → Ok (k i))
    (hh : ∀ i ∈ h, Ok i) :
    (∀ i ∈ (answer f h (h[p]?.map fun i => (g i, h.set p (k i)))).2, Ok i) ∧
      Stable h (answer f h (h[p]?.map fun i => (g i, h.set p (k i)))).2 := by
  cases hp : h[p]? with
  | none => exact ⟨hh, Stable.refl h⟩
  | some i =>
    refine ⟨fun j hj => (List.mem_or_eq_of_mem_set hj).elim (hh j) ?_, stable_set hp (hk i)⟩
    rintro rfl
    exact hok i (hh i (List.getElem?_mem hp))

theorem step_preserves (hO : ImplInvariant hashMemory Ok) {h : Heap} (hh : ∀ i ∈ h, Ok i) :
    ∀ op, (∀ i ∈ (step hashMemory h op).2, Ok i) ∧ Stable h (step hashMemory h op).2
  | .create .. => ⟨fun j hj => (List.mem_append.mp hj).elim (hh j)
      fun e => List.mem_singleton.mp e ▸ hO.create .., stable_append h _⟩
  | .hashName name => answer_preserves _ name.m_impl _
      (QualifiedNameImpl.fillHash_components _) hO.fillHash hh
  | .hashImpl name => answer_preserves _ name _
      (QualifiedNameImpl.fillHash_components _) hO.fillHash hh
  | .localNameUpper name => answer_preserves _ name.m_impl _
      QualifiedNameImpl.fillLocalNameUpper_components hO.fillLocalNameUpper hh

theorem run_preserves (hO : ImplInvariant hashMemory Ok) {h : Heap} (hh : ∀ i ∈ h, Ok i)
    (ops : List Op) :
    (∀ i ∈ run hashMemory h ops, Ok i) ∧ Stable h (run hashMemory h ops) := by
  induction ops generalizing h with
  | nil => exact ⟨hh, Stable.refl h⟩
  | cons op ops ih =>
    obtain ⟨hi, hs⟩ := step_preserves hO hh op
    obtain ⟨hi', hs'⟩ := ih hi
    exact ⟨hi', hs.trans hs'⟩

/-! ## The uppercase cache -/

/-- The uppercase cache of an impl is null or the uppercased local name. -/
def UpperOk (i : QualifiedNameImpl) : Prop :=
  i.m_localNameUpper = AtomicString.nullAtom ∨
    i.m_localNameUpper = i.m_localName.convertToASCIIUppercase

theorem fillHash_localNameUpper (i : QualifiedNameImpl) :
    (i.fillHash hashMemory).m_localNameUpper = i.m_localNameUpper ∧
      (i.fillHash hashMemory).m_localName = i.m_localName := by
  unfold QualifiedNameImpl.fillHash; split <;> exact ⟨rfl, rfl⟩

/-- Under the invariant the cache read after the fill is the uppercased local name, also
when the local name is null and the cache stays null. -/
theorem localNameUpper_fillLocalNameUpper {i : QualifiedNameImpl} (hi : UpperOk i) :
    i.fillLocalNameUpper.m_localNameUpper = i.m_localName.convertToASCIIUppercase := by
  unfold QualifiedNameImpl.fillLocalNameUpper
  split
  · rfl
  · exact hi.resolve_left fun e => ‹¬_› (by rw [e]; rfl)

theorem upperOk_invariant : ImplInvariant hashMemory UpperOk where
  create _ _ _ := .inl rfl
  fillHash i hi := by
    unfold UpperOk
    rw [(fillHash_localNameUpper i).1, (fillHash_localNameUpper i).2]
    exact hi
  fillLocalNameUpper i hi := by
    have e : i.fillLocalNameUpper.m_localName = i.m_localName := by
      unfold QualifiedNameImpl.fillLocalNameUpper; split <;> rfl
    exact .inr (e ▸ localNameUpper_fillLocalNameUpper hi)

/-- Under the invariant, `localNameUpper` answers the uppercased local name of the impl
it names, and answers whenever there is one. -/
theorem step_localNameUpper {h : Heap} (hh : ∀ i ∈ h, UpperOk i) (q : QualifiedName) :
    (step hashMemory h (.localNameUpper q)).1 =
      (q.localName h).map fun l => .upper l.convertToASCIIUppercase := by
  simp only [step, QualifiedName.localNameUpper, QualifiedName.localName, QualifiedName.impl]
  cases hp : h[q.m_impl]? with
  | none => rfl
  | some i =>
    simp only [answer, Option.map_some', localNameUpper_fillLocalNameUpper
      (hh i (List.getElem?_mem hp))]

/-- From a heap whose uppercase caches are sound, the empty heap among them, every state
a run reaches has sound caches, and there `localNameUpper` answers the uppercased local
name of every name, whatever its cache held. -/
theorem localNameUpper_run_returns_uppercase (h₀ : Heap) (hinv : ∀ i ∈ h₀, UpperOk i)
    (ops : List Op) :
    (∀ i ∈ run hashMemory h₀ ops, UpperOk i) ∧
    ∀ q : QualifiedName, (step hashMemory (run hashMemory h₀ ops) (.localNameUpper q)).1 =
      (q.localName (run hashMemory h₀ ops)).map fun l => .upper l.convertToASCIIUppercase :=
  have hi := (run_preserves upperOk_invariant hinv ops).1
  ⟨hi, step_localNameUpper hi⟩

/-- A creation of `x:svg` with no namespace, then both cache fills on it. -/
def createSvgAndFill : List Op :=
  [.create ⟨some "x"⟩ ⟨some "svg"⟩ ⟨none⟩, .localNameUpper ⟨0⟩, .hashName ⟨0⟩]

theorem localNameUpper_run_returns_uppercase_fresh :
    (∀ i ∈ ([] : Heap), UpperOk i) ∧
    ((∀ i ∈ run (fun _ => 7) [] createSvgAndFill, UpperOk i) ∧
      ∀ q : QualifiedName,
        (step (fun _ => 7) (run (fun _ => 7) [] createSvgAndFill) (.localNameUpper q)).1 =
          (q.localName (run (fun _ => 7) [] createSvgAndFill)).map
            fun l => .upper l.convertToASCIIUppercase) :=
  have h : ∀ i ∈ ([] : Heap), UpperOk i := fun _ h => absurd h (List.not_mem_nil _)
  ⟨h, localNameUpper_run_returns_uppercase [] h _⟩

end Run

end WebCore
end OpenJfxWeb
