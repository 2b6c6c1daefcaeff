import Mathlib.Logic.Basic

/-!
# `DOMURL`

`DOMURL.cpp` builds a `DOMURL` from a string and a base, refuses an invalid result
with `TypeError`, lets `setHref` re-resolve against the base fixed at creation, and
keeps a lazily created `URLSearchParams` in step with the URL.

WebCore's `URL` is not among the sources.  Its parser and accessors are the fields of
a `URLParser`, over any type of URLs, so every result here holds for every parser.
The calls a `DOMURL` makes on its `URLSearchParams` are returned beside the new
state, so that "sends no update" and "sends one update" are statements about lists.

The theorem of this file is `domurl_valid_and_setHref_contract`: creation returns
exactly the object resolved from its arguments, or `TypeError` when a resolution fails
(`create_eq`, `createAbsolute_eq`), every reachable object has a valid URL and the base it
was created with, and a `setHref` either fails with no effect or re-resolves and re-syncs
once.  Over a whole script, the destructor notifies the search params exactly when they
were asked for, and the script sends them only updates (`run_searchParams_lifecycle`).
-/

namespace OpenJfxWeb
namespace WebCore

/-- The part of WebCore's `URL` that `DOMURL.cpp` calls. -/
structure URLParser (URL : Type) where
  /-- `URL { base, relative }`. -/
  complete : URL → String → URL
  /-- `URL { }`. -/
  null : URL
  isValid : URL → Bool
  /-- `string()`, which `href()` returns. -/
  string : URL → String
  /-- `search()`: the query, with its `?` when it is not empty. -/
  search : URL → String
  setQuery : URL → String → URL
  /-- `blankURL()`, `about:blank`. -/
  blankURL : URL
  /-- The name-value pairs `URLSearchParams` parses out of a search string. -/
  parseURLEncodedForm : String → List (String × String)

/-- `ExceptionCode`, as far as `DOMURL.cpp` raises it. -/
inductive ExceptionCode where
  | typeError
  deriving DecidableEq, Repr

/-- `ExceptionOr<T>`. -/
abbrev ExceptionOr (α : Type) := Except ExceptionCode α

/-- A `URLSearchParams`, by its pairs. -/
structure URLSearchParams where
  m_pairs : List (String × String)
  deriving DecidableEq, Repr

/-- The calls a `DOMURL` makes on its `URLSearchParams`. -/
inductive SearchParamsCall where
  | updateFromAssociatedURL
  | associatedURLDestroyed
  deriving DecidableEq, Repr

/-- `DOMURL`: the base fixed at creation, the URL, and the search params once asked
for. -/
structure DOMURL (URL : Type) where
  m_baseURL : URL
  m_url : URL
  m_searchParams : Option URLSearchParams

namespace DOMURL

variable {URL : Type} (P : URLParser URL)

/-- `href()`. -/
def href (self : DOMURL URL) : String := P.string self.m_url

/-- `search()`. -/
def search (self : DOMURL URL) : String := P.search self.m_url

/-- `create(const String& url, const String& base)`. -/
def create (url base : String) : ExceptionOr (DOMURL URL) :=
  let baseURL := P.complete P.null base
  if !P.isValid baseURL then .error .typeError else
  let completeURL := P.complete baseURL url
  if !P.isValid completeURL then .error .typeError else
  .ok ⟨baseURL, completeURL, none⟩

/-- `create(const String& url, const DOMURL& base)`: `create(url, base.href())`. -/
def createFromBase (url : String) (base : DOMURL URL) : ExceptionOr (DOMURL URL) :=
  create P url (base.href P)

/-- `create(const String& url)`: resolved against `blankURL()`, which is not checked. -/
def createAbsolute (url : String) : ExceptionOr (DOMURL URL) :=
  let baseURL := P.blankURL
  let completeURL := P.complete baseURL url
  if !P.isValid completeURL then .error .typeError else
  .ok ⟨baseURL, completeURL, none⟩

/-- Modelled from the spec: `URLSearchParams::create(search(), this)` is in
`URLSearchParams.cpp`; it parses the pairs out of the search string it is given. -/
def createSearchParams (init : String) : URLSearchParams := ⟨P.parseURLEncodedForm init⟩

/-- Modelled from the spec: `updateFromAssociatedURL` is in `URLSearchParams.cpp`; it
parses the pairs again out of the associated URL's search string. -/
def updateFromAssociatedURL (self : DOMURL URL) : URLSearchParams :=
  ⟨P.parseURLEncodedForm (self.search P)⟩

/-- `setHref`: its result, the object after it, and the calls it made. -/
def setHref (self : DOMURL URL) (url : String) :
    ExceptionOr Unit × DOMURL URL × List SearchParamsCall :=
  let completeURL := P.complete self.m_baseURL url
  if !P.isValid completeURL then (.error .typeError, self, []) else
  let self := { self with m_url := completeURL }
  match self.m_searchParams with
  | some _ => (.ok (), { self with m_searchParams := some (updateFromAssociatedURL P self) },
      [.updateFromAssociatedURL])
  | none => (.ok (), self, [])

/-- `setQuery`. -/
def setQuery (self : DOMURL URL) (query : String) : DOMURL URL :=
  { self with m_url := P.setQuery self.m_url query }

/-- `searchParams()`: created on first use from `search()`. -/
def searchParams (self : DOMURL URL) : URLSearchParams × DOMURL URL :=
  match self.m_searchParams with
  | some sp => (sp, self)
  | none =>
    let sp := createSearchParams P (self.search P)
    (sp, { self with m_searchParams := some sp })

/-- `~DOMURL`: the calls the destructor makes. -/
def destroy (self : DOMURL URL) : List SearchParamsCall :=
  match self.m_searchParams with
  | some _ => [.associatedURLDestroyed]
  | none => []

/-! ## Runs -/

/-- The calls a script makes on a `DOMURL` after creating it. -/
inductive Op where
  | setHref (url : String)
  | searchParams
  deriving DecidableEq, Repr

/-- One call: the object after it, and the calls it made on the search params. -/
def step (self : DOMURL URL) : Op → DOMURL URL × List SearchParamsCall
  | .setHref url => (setHref P self url).2
  | .searchParams => ((searchParams P self).2, [])

/-- The objects a script can hold: created by an overload of `create`, then stepped. -/
inductive Reachable : DOMURL URL → Prop
  | create {url base : String} {d : DOMURL URL} : create P url base = .ok d → Reachable d
  | createFromBase {url : String} {base d : DOMURL URL} :
      createFromBase P url base = .ok d → Reachable d
  | createAbsolute {url : String} {d : DOMURL URL} : createAbsolute P url = .ok d → Reachable d
  | step {d : DOMURL URL} (op : Op) : Reachable d → Reachable (step P d op).1

/-- The URL is valid, and search params, once created, hold the pairs of its search
string. -/
structure Inv (d : DOMURL URL) : Prop where
  valid : P.isValid d.m_url = true
  synced : ∀ sp, d.m_searchParams = some sp → sp = updateFromAssociatedURL P d

/-! ## One call at a time -/

/-- What `create` returns: the object resolved from the base and the URL when both
resolutions are valid, and `TypeError` otherwise. -/
theorem create_eq (url base : String) :
    create P url base =
      if P.isValid (P.complete P.null base) = true ∧
          P.isValid (P.complete (P.complete P.null base) url) = true then
        .ok ⟨P.complete P.null base, P.complete (P.complete P.null base) url, none⟩
      else .error .typeError := by
  unfold create
  by_cases hb : P.isValid (P.complete P.null base) = true <;>
    by_cases hc : P.isValid (P.complete (P.complete P.null base) url) = true <;>
    simp [hb, hc]

theorem createAbsolute_eq (url : String) :
    createAbsolute P url =
      if P.isValid (P.complete P.blankURL url) = true then
        .ok ⟨P.blankURL, P.complete P.blankURL url, none⟩
      else .error .typeError := by
  unfold createAbsolute
  cases hc : P.isValid (P.complete P.blankURL url) <;> simp [hc]

/-- A fresh object, valid and without search params, satisfies the invariant. -/
theorem inv_of_fresh {d : DOMURL URL} (hv : P.isValid d.m_url = true)
    (hs : d.m_searchParams = none) : Inv P d :=
  ⟨hv, fun _ h => by rw [hs] at h; cases h⟩

theorem inv_of_create {url base : String} {d : DOMURL URL} (h : create P url base = .ok d) :
    Inv P d := by
  rw [create_eq] at h
  split at h <;> cases h
  exact inv_of_fresh P ‹_ ∧ _›.2 rfl

theorem inv_of_createAbsolute {url : String} {d : DOMURL URL} (h : createAbsolute P url = .ok d) :
    Inv P d := by
  rw [createAbsolute_eq] at h
  split at h <;> cases h
  exact inv_of_fresh P ‹_› rfl

/-- A failed `setHref` returns `TypeError` and changes nothing. -/
theorem setHref_of_invalid {self : DOMURL URL} {url : String}
    (h : P.isValid (P.complete self.m_baseURL url) = false) :
    setHref P self url = (.error .typeError, self, []) := by
  simp [setHref, h]

/-- A successful `setHref` re-resolves against the base, and re-syncs existing search
params with one call. -/
theorem setHref_of_valid {self : DOMURL URL} {url : String}
    (h : P.isValid (P.complete self.m_baseURL url) = true) :
    setHref P self url =
      (.ok (), ⟨self.m_baseURL, P.complete self.m_baseURL url, self.m_searchParams.map fun _ =>
          ⟨P.parseURLEncodedForm (P.search (P.complete self.m_baseURL url))⟩⟩,
        if self.m_searchParams.isSome then [.updateFromAssociatedURL] else []) := by
  unfold setHref
  cases self.m_searchParams <;> simp [h, updateFromAssociatedURL, search]

theorem step_baseURL (self : DOMURL URL) : ∀ op, (step P self op).1.m_baseURL = self.m_baseURL
  | .setHref url => by
    cases h : P.isValid (P.complete self.m_baseURL url)
    · simp [step, setHref_of_invalid P h]
    · simp [step, setHref_of_valid P h]
  | .searchParams => by
    unfold step searchParams
    cases self.m_searchParams <;> rfl

theorem step_inv {self : DOMURL URL} (hi : Inv P self) : ∀ op, Inv P (step P self op).1
  | .setHref url => by
    cases h : P.isValid (P.complete self.m_baseURL url)
    · simpa [step, setHref_of_invalid P h] using hi
    · simp only [step, setHref_of_valid P h]
      exact ⟨h, fun sp hs => by
        obtain ⟨_, -, rfl⟩ := Option.map_eq_some'.mp hs
        rfl⟩
  | .searchParams => by
    unfold step searchParams
    cases hs : self.m_searchParams with
    | some _ => exact hi
    | none => exact ⟨hi.1, fun _ h => by cases h; rfl⟩

/-- Every object a script can hold satisfies the invariant. -/
theorem Reachable.inv {d : DOMURL URL} (h : Reachable P d) : Inv P d := by
  induction h with
  | create h => exact inv_of_create P h
  | createFromBase h => exact inv_of_create P h
  | createAbsolute h => exact inv_of_createAbsolute P h
  | step op _ ih => exact step_inv P ih op

/-- Search params, once created, hold the pairs of the current URL's search string in
every reachable object. -/
theorem searchParams_synced {d : DOMURL URL} (h : Reachable P d) (sp : URLSearchParams)
    (hs : d.m_searchParams = some sp) : sp.m_pairs = P.parseURLEncodedForm (P.search d.m_url) := by
  rw [(Reachable.inv P h).2 sp hs]
  rfl

/-- Absolute URLs only: a string resolves to itself, is valid when it is not empty, and
is its own search string. -/
def absoluteOnly : URLParser String :=
  { complete := fun _ s => s, null := "", isValid := fun s => s != "", string := id,
    search := id, setQuery := fun s q => s ++ "?" ++ q,
    blankURL := "about:blank", parseURLEncodedForm := fun s => [(s, "")] }

theorem searchParams_synced_after_setHref :
    Reachable absoluteOnly (step absoluteOnly (step absoluteOnly
      ⟨"about:blank", "https://a/?q", none⟩ .searchParams).1 (.setHref "https://b/?r")).1 ∧
    ∀ sp, (step absoluteOnly (step absoluteOnly
        ⟨"about:blank", "https://a/?q", none⟩ .searchParams).1
          (.setHref "https://b/?r")).1.m_searchParams = some sp →
      sp.m_pairs = absoluteOnly.parseURLEncodedForm (absoluteOnly.search (step absoluteOnly
        (step absoluteOnly ⟨"about:blank", "https://a/?q", none⟩ .searchParams).1
          (.setHref "https://b/?r")).1.m_url) :=
  have h : Reachable absoluteOnly (step absoluteOnly (step absoluteOnly
      ⟨"about:blank", "https://a/?q", none⟩ .searchParams).1 (.setHref "https://b/?r")).1 :=
    have hc : createAbsolute absoluteOnly "https://a/?q" =
        .ok ⟨"about:blank", "https://a/?q", none⟩ := rfl
    .step _ (.step _ (.createAbsolute hc))
  ⟨h, searchParams_synced absoluteOnly h⟩

/-! ## The contract -/

theorem domurl_valid_and_setHref_contract :
    (∀ url base : String, create P url base =
      if P.isValid (P.complete P.null base) = true ∧
          P.isValid (P.complete (P.complete P.null base) url) = true then
        .ok ⟨P.complete P.null base, P.complete (P.complete P.null base) url, none⟩
      else .error .typeError) ∧
    (∀ (url : String) (base : DOMURL URL), createFromBase P url base =
      if P.isValid (P.complete P.null (base.href P)) = true ∧
          P.isValid (P.complete (P.complete P.null (base.href P)) url) = true then
        .ok ⟨P.complete P.null (base.href P),
          P.complete (P.complete P.null (base.href P)) url, none⟩
      else .error .typeError) ∧
    (∀ url : String, createAbsolute P url =
      if P.isValid (P.complete P.blankURL url) = true then
        .ok ⟨P.blankURL, P.complete P.blankURL url, none⟩
      else .error .typeError) ∧
    (∀ d, Reachable P d → P.isValid d.m_url = true) ∧
    (∀ d op, (step P d op).1.m_baseURL = d.m_baseURL) ∧
    (∀ (d : DOMURL URL) (url : String), (setHref P d url).1 = .error .typeError →
      (setHref P d url).2 = (d, [])) ∧
    (∀ (d : DOMURL URL) (url : String), (setHref P d url).1 = .ok () →
      (setHref P d url).2.1.m_url = P.complete d.m_baseURL url ∧
      (setHref P d url).2.2 =
        if d.m_searchParams.isSome then [.updateFromAssociatedURL] else []) := by
  refine ⟨create_eq P, fun url base => create_eq P url (base.href P), createAbsolute_eq P,
    fun _ h => (Reachable.inv P h).1, step_baseURL P, fun d url he => ?_, fun d url hok => ?_⟩
  · cases h : P.isValid (P.complete d.m_baseURL url)
    · rw [setHref_of_invalid P h]
    · rw [setHref_of_valid P h] at he; cases he
  · cases h : P.isValid (P.complete d.m_baseURL url)
    · rw [setHref_of_invalid P h] at hok; cases hok
    · rw [setHref_of_valid P h]
      exact ⟨rfl, rfl⟩

/-! ## Search params over a whole script

Search params, once created, are never dropped, and the destructor notifies them exactly
when they exist.  A script sends them nothing but updates, and only once they exist. -/

/-- A script's calls in order: the object after them, and the calls made on its search
params. -/
def run (self : DOMURL URL) : List Op → DOMURL URL × List SearchParamsCall
  | [] => (self, [])
  | op :: ops =>
    let r := step P self op
    ((run r.1 ops).1, r.2 ++ (run r.1 ops).2)

theorem step_searchParams_isSome (self : DOMURL URL) :
    ∀ op, (step P self op).1.m_searchParams.isSome =
      (self.m_searchParams.isSome || Op.searchParams == op)
  | .setHref url => by
    cases h : P.isValid (P.complete self.m_baseURL url)
    · simp [step, setHref_of_invalid P h]
    · simp [step, setHref_of_valid P h]
  | .searchParams => by
    unfold step searchParams
    cases h : self.m_searchParams <;> simp [h]

/-- Every call one step makes is an update, made only while search params exist. -/
theorem step_calls (self : DOMURL URL) :
    ∀ op, ∀ c ∈ (step P self op).2,
      c = .updateFromAssociatedURL ∧ self.m_searchParams.isSome = true
  | .setHref url, c, hc => by
    cases h : P.isValid (P.complete self.m_baseURL url)
    · simp [step, setHref_of_invalid P h] at hc
    · simp only [step, setHref_of_valid P h] at hc
      split at hc
      · exact ⟨List.mem_singleton.mp hc, ‹_›⟩
      · cases hc
  | .searchParams, _, hc => by cases hc

theorem run_searchParams_isSome (self : DOMURL URL) (ops : List Op) :
    (run P self ops).1.m_searchParams.isSome =
      (self.m_searchParams.isSome || ops.contains .searchParams) := by
  induction ops generalizing self with
  | nil => simp [run]
  | cons op ops ih =>
    simp only [run, ih, step_searchParams_isSome, List.contains_cons, Bool.or_assoc]

theorem run_calls (self : DOMURL URL) (ops : List Op) :
    ∀ c ∈ (run P self ops).2, c = .updateFromAssociatedURL ∧
      (self.m_searchParams.isSome || ops.contains .searchParams) = true := by
  induction ops generalizing self with
  | nil => intro c hc; cases hc
  | cons op ops ih =>
    intro c hc
    rcases List.mem_append.mp hc with hc | hc
    · obtain ⟨rfl, hs⟩ := step_calls P self op c hc
      simp [hs]
    · obtain ⟨rfl, hs⟩ := ih _ c hc
      rw [step_searchParams_isSome] at hs
      exact ⟨rfl, by simpa only [List.contains_cons, Bool.or_assoc] using hs⟩

/-- Over any script, the destructor notifies the search params exactly when they were
there from the start or asked for; every call the script sends them is an update, and
it sends one only if they were. -/
theorem run_searchParams_lifecycle (self : DOMURL URL) (ops : List Op) :
    destroy (run P self ops).1 =
      (if self.m_searchParams.isSome || ops.contains .searchParams then
        [.associatedURLDestroyed] else []) ∧
    ∀ c ∈ (run P self ops).2, c = .updateFromAssociatedURL ∧
      (self.m_searchParams.isSome || ops.contains .searchParams) = true := by
  refine ⟨?_, run_calls P self ops⟩
  rw [← run_searchParams_isSome P self ops]
  unfold destroy
  cases (run P self ops).1.m_searchParams <;> rfl

/-! ## Object URLs

`createPublicURL` registers a fresh blob URL with the context's `PublicURLManager`, and
`revokeObjectURL` parses a string back to a URL, drops the request for it from the
session caches and revokes it.  `BlobURL`, `PublicURLManager` and `MemoryCache` are not
among the sources: what `DOMURL.cpp` asks of them is an `ObjectURLContext`, and what it
tells them is returned as a list of calls.  The null `String()` is the empty text. -/

/-- The part of a `ScriptExecutionContext`, and of `BlobURL`, that the object-URL
functions read. -/
structure ObjectURLContext (URL Origin : Type) where
  securityOrigin : Origin
  /-- `topOrigin().domainForCachePartition()`. -/
  domainForCachePartition : String
  /-- `BlobURL::createPublicURL`. -/
  createPublicBlobURL : Origin → URL
  /-- `URL::isEmpty`. -/
  isEmpty : URL → Bool

/-- A `ResourceRequest`, by its URL and the cache partition it is set to. -/
structure ResourceRequest (URL : Type) where
  url : URL
  domainForCachePartition : String

/-- The calls the object-URL functions make on the context; `R` is the type of the
registrables, a `Blob` among them. -/
inductive ObjectURLCall (URL Origin R : Type) where
  | registerURL (origin : Origin) (url : URL) (registrable : R)
  | removeRequestFromSessionCaches (request : ResourceRequest URL)
  | revoke (url : URL)

variable {Origin R : Type}

/-- `createPublicURL`: the URL's text and the calls made. -/
def createPublicURL (scriptExecutionContext : ObjectURLContext URL Origin) (registrable : R) :
    String × List (ObjectURLCall URL Origin R) :=
  let publicURL := scriptExecutionContext.createPublicBlobURL
    scriptExecutionContext.securityOrigin
  if scriptExecutionContext.isEmpty publicURL then ("", []) else
  (P.string publicURL, [.registerURL scriptExecutionContext.securityOrigin publicURL registrable])

/-- `createObjectURL`: `createPublicURL` for a blob. -/
def createObjectURL (scriptExecutionContext : ObjectURLContext URL Origin) (blob : R) :
    String × List (ObjectURLCall URL Origin R) :=
  createPublicURL P scriptExecutionContext blob

/-- `revokeObjectURL`: the calls made. -/
def revokeObjectURL (scriptExecutionContext : ObjectURLContext URL Origin) (urlString : String) :
    List (ObjectURLCall URL Origin R) :=
  let url := P.complete P.null urlString
  let request : ResourceRequest URL := ⟨url, scriptExecutionContext.domainForCachePartition⟩
  [.removeRequestFromSessionCaches request, .revoke url]

end DOMURL

end WebCore
end OpenJfxWeb
