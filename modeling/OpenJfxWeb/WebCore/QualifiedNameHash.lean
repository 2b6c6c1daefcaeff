import OpenJfxWeb.WebCore.QualifiedName

/-!
# The qualified-name hash cache

`QualifiedNameHash::hash` fills `m_existingHash` from `computeHash()` when it reads
zero and returns it.  Zero is both the "not yet computed" mark and a possible hash,
and the field is `mutable` beside a second `mutable` cache, `m_localNameUpper`.

The invariant is `CacheInv`: every cache holds zero or the hash of its impl's
constant components.  Creation sets up the invariant, each operation keeps it and
leaves every impl's components alone (`step_inv`), and under it a hash call returns
`computeHash()` whatever the cache held (`existingHash_fillHash`, `step_hash`).  So
across a whole run every hash of one impl is the same value
(`hash_run_returns_computeHash`).
-/

namespace OpenJfxWeb
namespace WebCore

namespace QualifiedNameHash

variable (hashMemory : QualifiedNameComponents → UInt32)

/-- `hash(const QualifiedName::QualifiedNameImpl*)`. -/
def hashImpl (h : Heap) (name : Nat) : Option (UInt32 × Heap) :=
  h[name]?.map fun i =>
    ((i.fillHash hashMemory).m_existingHash, h.set name (i.fillHash hashMemory))

/-- `hash(const QualifiedName&)`: `hash(name.impl())`. -/
def hash (h : Heap) (name : QualifiedName) : Option (UInt32 × Heap) :=
  hashImpl hashMemory h name.m_impl

/-- `equal`: both overloads compare the impl pointers. -/
def equal (a b : QualifiedName) : Bool := a.equals b

end QualifiedNameHash

/-! ## Runs -/

/-- The operations a run interleaves on the impls. -/
inductive Op where
  | create (pfx localName namespaceURI : AtomicString)
  | hashName (name : QualifiedName)
  | hashImpl (name : Nat)
  | localNameUpper (name : QualifiedName)
  deriving DecidableEq, Repr

/-- The impl a hash call reads. -/
def Op.hashTarget : Op → Option Nat
  | .hashName name => some name.m_impl
  | .hashImpl name => some name
  | _ => none

/-- What an operation hands back. -/
inductive Reply where
  | created (name : QualifiedName)
  | hashed (value : UInt32)
  | upper (value : AtomicString)
  deriving DecidableEq, Repr

section Run

variable (hashMemory : QualifiedNameComponents → UInt32)

/-- The reply to a call on a pointer; a pointer with no impl gets none and changes
nothing. -/
def answer {α : Type} (f : α → Reply) (h : Heap) : Option (α × Heap) → Option Reply × Heap
  | some (a, h') => (some (f a), h')
  | none => (none, h)

/-- One operation. -/
def step (h : Heap) : Op → Option Reply × Heap
  | .create pfx localName namespaceURI =>
    let r := QualifiedName.create h pfx localName namespaceURI
    (some (.created r.1), r.2)
  | .hashName name => answer .hashed h (QualifiedNameHash.hash hashMemory h name)
  | .hashImpl name => answer .hashed h (QualifiedNameHash.hashImpl hashMemory h name)
  | .localNameUpper name => answer .upper h (name.localNameUpper h)

/-- The heap after a run; every state a run passes through is the end of a shorter
one. -/
def run : Heap → List Op → Heap
  | h, [] => h
  | h, op :: ops => run (step hashMemory h op).2 ops

/-- The cache of one impl holds zero or its hash. -/
def CacheOk (i : QualifiedNameImpl) : Prop :=
  i.m_existingHash = 0 ∨ i.m_existingHash = i.computeHash hashMemory

/-- Every cache holds zero or the hash of its impl. -/
def CacheInv (h : Heap) : Prop := ∀ i ∈ h, CacheOk hashMemory i

/-- No impl is lost and none changes its components. -/
def Stable (h h' : Heap) : Prop :=
  ∀ (p : Nat) (i : QualifiedNameImpl), h[p]? = some i →
    ∃ i' : QualifiedNameImpl, h'[p]? = some i' ∧ i'.components = i.components

/-! ### One impl -/

variable {hashMemory}

/-- Under the invariant the cache read after the fill is the fresh hash, also when the
hash is zero. -/
theorem existingHash_fillHash {i : QualifiedNameImpl} (hi : CacheOk hashMemory i) :
    (i.fillHash hashMemory).m_existingHash = i.computeHash hashMemory := by
  unfold QualifiedNameImpl.fillHash
  split
  · rfl
  · exact hi.resolve_left ‹_›

theorem cacheOk_fillHash {i : QualifiedNameImpl} (hi : CacheOk hashMemory i) :
    CacheOk hashMemory (i.fillHash hashMemory) :=
  .inr ((existingHash_fillHash hi).trans
    (QualifiedNameImpl.computeHash_congr (QualifiedNameImpl.fillHash_components _ _).symm))

theorem cacheOk_fillLocalNameUpper {i : QualifiedNameImpl} (hi : CacheOk hashMemory i) :
    CacheOk hashMemory i.fillLocalNameUpper := by
  have e : i.fillLocalNameUpper.m_existingHash = i.m_existingHash := by
    unfold QualifiedNameImpl.fillLocalNameUpper; split <;> rfl
  rw [CacheOk, e,
    QualifiedNameImpl.computeHash_congr (QualifiedNameImpl.fillLocalNameUpper_components i)]
  exact hi

theorem cacheOk_create (pfx localName namespaceURI : AtomicString) :
    CacheOk hashMemory (QualifiedNameImpl.create pfx localName namespaceURI) := .inl rfl

/-! ### The heap -/

theorem cacheInv_nil : CacheInv hashMemory [] := fun _ h => absurd h (List.not_mem_nil _)

theorem cacheInv_set {h : Heap} (hh : CacheInv hashMemory h) {i : QualifiedNameImpl}
    (hi : CacheOk hashMemory i) (p : Nat) : CacheInv hashMemory (h.set p i) :=
  fun j hj => (List.mem_or_eq_of_mem_set hj).elim (hh j) (fun e => e ▸ hi)

theorem cacheInv_append {h : Heap} (hh : CacheInv hashMemory h) {i : QualifiedNameImpl}
    (hi : CacheOk hashMemory i) : CacheInv hashMemory (h ++ [i]) :=
  fun j hj => (List.mem_append.mp hj).elim (hh j) fun e => List.mem_singleton.mp e ▸ hi

theorem Stable.refl (h : Heap) : Stable h h := fun _ i hp => ⟨i, hp, rfl⟩

theorem Stable.trans {a b c : Heap} (hab : Stable a b) (hbc : Stable b c) : Stable a c := by
  intro p i hp
  obtain ⟨j, hj, ej⟩ := hab p i hp
  obtain ⟨k, hk, ek⟩ := hbc p j hj
  exact ⟨k, hk, ek.trans ej⟩

theorem stable_set {h : Heap} {p : Nat} {i i' : QualifiedNameImpl} (hp : h[p]? = some i)
    (hc : i'.components = i.components) : Stable h (h.set p i') := by
  intro q j hq
  by_cases e : p = q
  · subst e
    rw [hp] at hq
    cases hq
    exact ⟨i', List.getElem?_set_self (List.getElem?_eq_some_iff.mp hp).1, hc⟩
  · exact ⟨j, by rw [List.getElem?_set_ne e]; exact hq, rfl⟩

theorem stable_append (h : Heap) (i : QualifiedNameImpl) : Stable h (h ++ [i]) :=
  fun _ j hq =>
    ⟨j, by rw [List.getElem?_append_left (List.getElem?_eq_some_iff.mp hq).1]; exact hq, rfl⟩

/-! ### One operation -/

/-- Under the invariant, the memoised hash is the fresh one. -/
theorem hashImpl_eq {h : Heap} (hh : CacheInv hashMemory h) (p : Nat) :
    QualifiedNameHash.hashImpl hashMemory h p =
      h[p]?.map fun i => (i.computeHash hashMemory, h.set p (i.fillHash hashMemory)) := by
  unfold QualifiedNameHash.hashImpl
  cases hp : h[p]? with
  | none => rfl
  | some i => simp only [Option.map_some', existingHash_fillHash (hh i (List.getElem?_mem hp))]

/-- A call that rewrites the impl at `p` by `k` keeps the invariant and the components
when `k` does. -/
theorem answer_update {α : Type} (f : α → Reply) {h : Heap} (p : Nat)
    (g : QualifiedNameImpl → α) {k : QualifiedNameImpl → QualifiedNameImpl}
    (hk : ∀ i, (k i).components = i.components)
    (hok : ∀ i, CacheOk hashMemory i → CacheOk hashMemory (k i))
    (hh : CacheInv hashMemory h) :
    CacheInv hashMemory (answer f h (h[p]?.map fun i => (g i, h.set p (k i)))).2 ∧
      Stable h (answer f h (h[p]?.map fun i => (g i, h.set p (k i)))).2 := by
  cases hp : h[p]? with
  | none => exact ⟨hh, Stable.refl h⟩
  | some i => exact ⟨cacheInv_set hh (hok i (hh i (List.getElem?_mem hp))) p, stable_set hp (hk i)⟩

theorem step_inv {h : Heap} (hh : CacheInv hashMemory h) :
    ∀ op, CacheInv hashMemory (step hashMemory h op).2 ∧ Stable h (step hashMemory h op).2
  | .create .. => ⟨cacheInv_append hh (cacheOk_create ..), stable_append h _⟩
  | .hashName name => answer_update _ name.m_impl _ (QualifiedNameImpl.fillHash_components _)
      (fun _ => cacheOk_fillHash) hh
  | .hashImpl name => answer_update _ name _ (QualifiedNameImpl.fillHash_components _)
      (fun _ => cacheOk_fillHash) hh
  | .localNameUpper name => answer_update _ name.m_impl _
      QualifiedNameImpl.fillLocalNameUpper_components (fun _ => cacheOk_fillLocalNameUpper) hh

/-- Under the invariant a hash call, through either overload, answers the fresh hash of
the impl it names, and answers whenever there is one. -/
theorem step_hash {h : Heap} (hh : CacheInv hashMemory h) {op : Op} {p : Nat}
    (ht : op.hashTarget = some p) :
    (step hashMemory h op).1 = h[p]?.map fun i => .hashed (i.computeHash hashMemory) := by
  have e : ∀ q, (step hashMemory h (.hashImpl q)).1 =
      h[q]?.map fun i => .hashed (i.computeHash hashMemory) := by
    intro q
    simp only [step, hashImpl_eq hh]
    cases h[q]? <;> rfl
  cases op <;> simp only [Op.hashTarget, Option.some.injEq, reduceCtorEq] at ht <;> subst ht <;>
    exact e _

/-! ### Whole runs -/

theorem run_inv {h : Heap} (hh : CacheInv hashMemory h) (ops : List Op) :
    CacheInv hashMemory (run hashMemory h ops) ∧ Stable h (run hashMemory h ops) := by
  induction ops generalizing h with
  | nil => exact ⟨hh, Stable.refl h⟩
  | cons op ops ih =>
    obtain ⟨hi, hs⟩ := step_inv hh op
    obtain ⟨hi', hs'⟩ := ih hi
    exact ⟨hi', hs.trans hs'⟩

/-- From a heap whose caches are sound, the empty heap among them, every state a run
reaches has sound caches; there a hash call through either overload answers the fresh
hash of the impl it names; no impl's hash has moved since the start; and names that
`QualifiedNameHash::equal` identifies hash alike. -/
theorem hash_run_returns_computeHash (h₀ : Heap) (hinv : CacheInv hashMemory h₀) (ops : List Op) :
    CacheInv hashMemory (run hashMemory h₀ ops) ∧
    (∀ op p, op.hashTarget = some p →
      (step hashMemory (run hashMemory h₀ ops) op).1 =
        (run hashMemory h₀ ops)[p]?.map fun i => .hashed (i.computeHash hashMemory)) ∧
    (∀ (p : Nat) (i : QualifiedNameImpl), h₀[p]? = some i →
      ∃ i' : QualifiedNameImpl, (run hashMemory h₀ ops)[p]? = some i' ∧
      i'.computeHash hashMemory = i.computeHash hashMemory) ∧
    (∀ a b : QualifiedName, QualifiedNameHash.equal a b = true →
      (step hashMemory (run hashMemory h₀ ops) (.hashName a)).1 =
        (step hashMemory (run hashMemory h₀ ops) (.hashName b)).1) := by
  obtain ⟨hi, hs⟩ := run_inv hinv ops
  refine ⟨hi, fun _ _ => step_hash hi, fun p i hp => ?_, fun a b e => ?_⟩
  · obtain ⟨i', h', hc⟩ := hs p i hp
    exact ⟨i', h', QualifiedNameImpl.computeHash_congr hc⟩
  · have hab : a.m_impl = b.m_impl := beq_iff_eq.mp e
    have ha : (Op.hashName a).hashTarget = some a.m_impl := rfl
    have hb : (Op.hashName b).hashTarget = some b.m_impl := rfl
    rw [step_hash hi ha, step_hash hi hb, hab]

/-- The edge case of a hasher that answers zero, from the empty heap: the cache then
never fills and every call recomputes. -/
theorem hash_run_zero_hasher :
    CacheInv (fun _ => 0) [] ∧
    (CacheInv (fun _ => 0) (run (fun _ => 0) [] [.create ⟨some "x"⟩ ⟨some "a"⟩ ⟨none⟩,
        .hashName ⟨0⟩, .localNameUpper ⟨0⟩]) ∧
      (∀ op p, op.hashTarget = some p →
        (step (fun _ => 0) (run (fun _ => 0) [] [.create ⟨some "x"⟩ ⟨some "a"⟩ ⟨none⟩,
          .hashName ⟨0⟩, .localNameUpper ⟨0⟩]) op).1 =
          (run (fun _ => 0) [] [.create ⟨some "x"⟩ ⟨some "a"⟩ ⟨none⟩, .hashName ⟨0⟩,
            .localNameUpper ⟨0⟩])[p]?.map fun i => .hashed (i.computeHash fun _ => 0)) ∧
      (∀ (p : Nat) (i : QualifiedNameImpl), ([] : Heap)[p]? = some i →
        ∃ i' : QualifiedNameImpl, (run (fun _ => 0) [] [.create ⟨some "x"⟩
          ⟨some "a"⟩ ⟨none⟩, .hashName ⟨0⟩, .localNameUpper ⟨0⟩])[p]? = some i' ∧
        i'.computeHash (fun _ => 0) = i.computeHash fun _ => 0) ∧
      (∀ a b : QualifiedName, QualifiedNameHash.equal a b = true →
        (step (fun _ => 0) (run (fun _ => 0) [] [.create ⟨some "x"⟩ ⟨some "a"⟩ ⟨none⟩,
          .hashName ⟨0⟩, .localNameUpper ⟨0⟩]) (.hashName a)).1 =
        (step (fun _ => 0) (run (fun _ => 0) [] [.create ⟨some "x"⟩ ⟨some "a"⟩ ⟨none⟩,
          .hashName ⟨0⟩, .localNameUpper ⟨0⟩]) (.hashName b)).1)) :=
  ⟨cacheInv_nil, hash_run_returns_computeHash [] cacheInv_nil _⟩

end Run

end WebCore
end OpenJfxWeb
