import Mathlib.Data.List.Basic

/-!
# Qualified names

`QualifiedName.h` keeps a qualified name as a reference-counted pointer to a
`QualifiedNameImpl` with three constant atoms, a hash cache and a cache for the
uppercased local name, both `mutable`.  The impls form a heap here: a `List` of
impls, and a `QualifiedName` holds the position of its impl.  A name whose
position is past the end has no impl, and every accessor reads `none` for it.

Atomic strings are interned, so the string impl pointers that `==` and
`hashComponents` compare stand for the texts; `AtomicString` is the text, with
`none` for `nullAtom`.

The theorem of this file is `matches_iff_fields`: the pointer test in `matches` is
subsumed by the field comparison, so `matches` is an equivalence that ignores the
prefix.  The hash cache is `QualifiedNameHash.lean`.
-/

namespace OpenJfxWeb
namespace WebCore

/-- An `AtomicString`, by its text; `none` is `nullAtom`. -/
structure AtomicString where
  impl : Option String
  deriving DecidableEq, Repr

namespace AtomicString

def nullAtom : AtomicString := ⟨none⟩

/-- `!atom`. -/
def isNull (s : AtomicString) : Bool := s.impl.isNone

/-- `convertToASCIIUppercase`; `String.toUpper` moves only `a`..`z`. -/
def convertToASCIIUppercase (s : AtomicString) : AtomicString := ⟨s.impl.map String.toUpper⟩

end AtomicString

/-- `QualifiedNameComponents`: the three string impls that are hashed. -/
structure QualifiedNameComponents where
  m_prefix : AtomicString
  m_localName : AtomicString
  m_namespace : AtomicString
  deriving DecidableEq, Repr

/-- `hashComponents`: `StringHasher::hashMemory` over the bytes of the components.
The hasher is WTF's, so it is a parameter of everything that hashes. -/
def hashComponents (hashMemory : QualifiedNameComponents → UInt32)
    (buf : QualifiedNameComponents) : UInt32 :=
  hashMemory buf

/-- `QualifiedName::QualifiedNameImpl`. -/
structure QualifiedNameImpl where
  m_existingHash : UInt32
  m_prefix : AtomicString
  m_localName : AtomicString
  m_namespace : AtomicString
  m_localNameUpper : AtomicString
  deriving DecidableEq, Repr

namespace QualifiedNameImpl

/-- `QualifiedNameImpl::create`: the constructor zeroes the hash cache, and the
default-constructed `m_localNameUpper` is null. -/
def create (pfx localName namespaceURI : AtomicString) : QualifiedNameImpl :=
  { m_existingHash := 0, m_prefix := pfx, m_localName := localName,
    m_namespace := namespaceURI, m_localNameUpper := AtomicString.nullAtom }

/-- The constant part of an impl. -/
def components (impl : QualifiedNameImpl) : QualifiedNameComponents :=
  ⟨ QualifiedNameImpl.m_prefix impl, impl.m_localName, impl.m_namespace⟩

/-- Modelled from the spec: the body of `computeHash` is in `QualifiedName.cpp`, which
is not among the sources.  It hashes the three constant components with
`hashComponents`, as the header's `QualifiedNameComponents` is laid out for. -/
def computeHash (hashMemory : QualifiedNameComponents → UInt32) (impl : QualifiedNameImpl) :
    UInt32 :=
  hashComponents hashMemory impl.components

/-- The first statement of `QualifiedNameHash::hash`: a zero cache is filled. -/
def fillHash (hashMemory : QualifiedNameComponents → UInt32) (impl : QualifiedNameImpl) :
    QualifiedNameImpl :=
  if impl.m_existingHash = 0 then { impl with m_existingHash := impl.computeHash hashMemory }
  else impl

/-- The cache fill of `localNameUpper`: a null `m_localNameUpper` gets the uppercased
local name. -/
def fillLocalNameUpper (impl : QualifiedNameImpl) : QualifiedNameImpl :=
  if impl.m_localNameUpper.isNull then
    { impl with m_localNameUpper := impl.m_localName.convertToASCIIUppercase }
  else impl

@[simp] theorem create_components (pfx localName namespaceURI : AtomicString) :
    (create pfx localName namespaceURI).components = ⟨pfx, localName, namespaceURI⟩ := rfl

@[simp] theorem fillHash_components (hashMemory : QualifiedNameComponents → UInt32)
    (impl : QualifiedNameImpl) : (impl.fillHash hashMemory).components = impl.components := by
  unfold fillHash; split <;> rfl

@[simp] theorem fillLocalNameUpper_components (impl : QualifiedNameImpl) :
    impl.fillLocalNameUpper.components = impl.components := by
  unfold fillLocalNameUpper; split <;> rfl

theorem computeHash_congr {hashMemory : QualifiedNameComponents → UInt32}
    {a b : QualifiedNameImpl} (h : a.components = b.components) :
    a.computeHash hashMemory = b.computeHash hashMemory := by
  rw [computeHash, computeHash, h]

end QualifiedNameImpl

/-- The live impls; `RefPtr<QualifiedNameImpl>` is a position in the list. -/
abbrev Heap := List QualifiedNameImpl

/-- `QualifiedName`: its one field is the impl pointer. -/
structure QualifiedName where
  m_impl : Nat
  deriving DecidableEq, Repr

namespace QualifiedName

variable (h : Heap)

def impl (q : QualifiedName) : Option QualifiedNameImpl := h[q.m_impl]?

def localName (q : QualifiedName) : Option AtomicString := (q.impl h).map (·.m_localName)

def namespaceURI (q : QualifiedName) : Option AtomicString := (q.impl h).map (·.m_namespace)

def hasPrefix (q : QualifiedName) : Option Bool :=
  (q.impl h).map fun i => QualifiedNameImpl.m_prefix i != AtomicString.nullAtom

/-- `operator==`: the impl pointers. -/
def equals (a other : QualifiedName) : Bool := a.m_impl == other.m_impl

/-- `matches`: the same impl, or the same local name and namespace. -/
def «matches» (a other : QualifiedName) : Bool :=
  a.m_impl == other.m_impl ||
    (a.localName h == other.localName h && a.namespaceURI h == other.namespaceURI h)

/-- The constructor `QualifiedName(prefix, localName, namespaceURI)` on a fresh impl.
Its body, in `QualifiedName.cpp`, may share an existing impl with the same
components; this model allocates, which changes no field a name reads. -/
def create (pfx localName namespaceURI : AtomicString) : QualifiedName × Heap :=
  (⟨h.length⟩, h ++ [QualifiedNameImpl.create pfx localName namespaceURI])

/-- Modelled from the spec: the body of `localNameUpper` is in `QualifiedName.cpp`; the
header calls it the "uppercased localName, cached for efficiency" and makes the cache
the `mutable` field `m_localNameUpper`, filled while it is null and then returned. -/
def localNameUpper (q : QualifiedName) : Option (AtomicString × Heap) :=
  (q.impl h).map fun i =>
    (i.fillLocalNameUpper.m_localNameUpper, h.set q.m_impl i.fillLocalNameUpper)

/-- `setPrefix`: `*this = QualifiedName(prefix, localName(), namespaceURI())`. -/
def setPrefix (q : QualifiedName) (pfx : AtomicString) : Option (QualifiedName × Heap) :=
  (q.impl h).map fun i => create h pfx i.m_localName i.m_namespace

/-- `toString`: the local name when there is no prefix, else `prefix:localName`.  A WTF
`String` is `Option String` here, `none` for the null string; the local name of a name
without a prefix is returned as it is, null or not, and a concatenation is never null. -/
def toString (q : QualifiedName) : Option (Option String) :=
  (q.impl h).map fun i =>
    if !(QualifiedNameImpl.m_prefix i != AtomicString.nullAtom) then i.m_localName.impl
    else some (( QualifiedNameImpl.m_prefix i).impl.getD "" ++ ":" ++ i.m_localName.impl.getD "")

/-! ## `matches`

The pointer disjunct decides nothing the field comparison decides differently: one
impl has one local name and one namespace. -/

theorem fields_eq_of_impl_eq {a b : QualifiedName} (e : a.m_impl = b.m_impl) :
    a.localName h = b.localName h ∧ a.namespaceURI h = b.namespaceURI h := by
  simp only [localName, namespaceURI, impl, e, and_self]

theorem matches_iff_fields (a b : QualifiedName) :
    a.«matches» h b = true ↔
      a.localName h = b.localName h ∧ a.namespaceURI h = b.namespaceURI h := by
  simp only [«matches», Bool.or_eq_true, Bool.and_eq_true, beq_iff_eq]
  exact ⟨fun m => m.elim (fields_eq_of_impl_eq h) id, Or.inr⟩

/-- `matches` is the field comparison, hence an equivalence on names, coarser than
pointer equality. -/
theorem matches_is_fieldEquivalence :
    (∀ (h : Heap) (a b : QualifiedName),
      a.«matches» h b = true ↔
        a.localName h = b.localName h ∧ a.namespaceURI h = b.namespaceURI h) ∧
    (∀ (h : Heap) (a : QualifiedName), a.«matches» h a = true) ∧
    (∀ (h : Heap) (a b : QualifiedName), a.«matches» h b = true → b.«matches» h a = true) ∧
    (∀ (h : Heap) (a b c : QualifiedName),
      a.«matches» h b = true → b.«matches» h c = true → a.«matches» h c = true) ∧
    (∀ (h : Heap) (a b : QualifiedName), a.equals b = true → a.«matches» h b = true) := by
  refine ⟨matches_iff_fields, fun h a => (matches_iff_fields h a a).mpr ⟨rfl, rfl⟩,
    fun h a b => ?_, fun h a b c => ?_, fun h a b e => ?_⟩ <;> simp only [matches_iff_fields]
  · exact fun ⟨e₁, e₂⟩ => ⟨e₁.symm, e₂.symm⟩
  · exact fun ⟨e₁, e₂⟩ ⟨f₁, f₂⟩ => ⟨e₁.trans f₁, e₂.trans f₂⟩
  · exact fields_eq_of_impl_eq h (beq_iff_eq.mp e)

end QualifiedName

end WebCore
end OpenJfxWeb
