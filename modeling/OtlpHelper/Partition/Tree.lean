-- The containers the three OTLP data messages share: a resource container holds scope
-- containers, which hold the leaves (spans, metrics or log records). partition.go splits,
-- counts and filters the three signals with the same loops; they are modelled here once.
namespace OtlpHelper.Partition

-- `ScopeSpans`, `ScopeMetrics` and `ScopeLogs`: a scope, its leaves and a schema URL.
structure ScopeLeaves (Scope Leaf : Type) where
  scope : Scope
  leaves : List Leaf
  schemaUrl : String
deriving DecidableEq, Repr

-- `ResourceSpans`, `ResourceMetrics` and `ResourceLogs`.
structure ResourceLeaves (Res Scope Leaf : Type) where
  resource : Res
  scopes : List (ScopeLeaves Scope Leaf)
  schemaUrl : String
deriving DecidableEq, Repr

variable {Res Scope Leaf : Type}

section Walks

variable (splitLeaves : List Leaf → List Leaf)

-- `splitScopeSpans` and its siblings: a scope container for each leaf `splitLeaves` makes
-- of a container's leaves, with that container's scope and schema URL.
def splitScopes (src : List (ScopeLeaves Scope Leaf)) : List (ScopeLeaves Scope Leaf) :=
  src.flatMap fun elem => (splitLeaves elem.leaves).map fun x => ⟨elem.scope, [x], elem.schemaUrl⟩

-- `SplitResourceSpans` and its siblings: a resource container for each scope container
-- the split of its scopes makes, with its resource and schema URL.
def splitResources (src : List (ResourceLeaves Res Scope Leaf)) : List (ResourceLeaves Res Scope Leaf) :=
  src.flatMap fun elem =>
    (splitScopes splitLeaves elem.scopes).map fun s => ⟨elem.resource, [s], elem.schemaUrl⟩

end Walks

-- `TotalSpans` and its siblings: `total += count(leaves)` over every scope container.
def total (count : List Leaf → Nat) (src : List (ResourceLeaves Res Scope Leaf)) : Nat :=
  src.foldl (fun total elem => elem.scopes.foldl (fun total s => total + count s.leaves) total) 0

-- `andFilter`: false at the first filter that is false, true otherwise.
def andFilter {T : Type} (filters : List (Res → Scope → T → Bool)) (r : Res) (s : Scope) (t : T) : Bool :=
  filters.all fun f => f r s t

-- `FilterResourceSpans` and its siblings: each split tree, appended once for each of its
-- leaves that passes every filter.
def filterResources (splitLeaves : List Leaf → List Leaf) (filters : List (Res → Scope → Leaf → Bool))
    (src : List (ResourceLeaves Res Scope Leaf)) : List (ResourceLeaves Res Scope Leaf) :=
  let filter := andFilter filters
  (splitResources splitLeaves src).flatMap fun elem =>
    elem.scopes.flatMap fun s => (s.leaves.filter (filter elem.resource s.scope)).map fun _ => elem

-- The leaf the partition keys read: the first leaf of the first scope container, if any.
def ResourceLeaves.firstLeaf (t : ResourceLeaves Res Scope Leaf) : Option Leaf :=
  match t.scopes with
  | [] => none
  | s :: _ => s.leaves.head?

-- The key the partition functions read off a tree's first leaf; "" for a tree without one.
def firstLeafKey (key : Leaf → String) (t : ResourceLeaves Res Scope Leaf) : String :=
  match t.firstLeaf with
  | none => ""
  | some x => key x

theorem firstLeafKey_eq (key : Leaf → String) (t : ResourceLeaves Res Scope Leaf) :
    firstLeafKey key t = (t.firstLeaf.map key).getD "" := by
  unfold firstLeafKey
  cases t.firstLeaf <;> rfl

-- What a split is.

-- A leaf with the resource and scope containers it sits in.
structure LeafPath (Res Scope Leaf : Type) where
  res : ResourceLeaves Res Scope Leaf
  scp : ScopeLeaves Scope Leaf
  leaf : Leaf
deriving DecidableEq, Repr

-- The tree holding only the path's leaf: one resource container with the path's resource
-- and schema URL, holding one scope container with its scope and schema URL.
def LeafPath.tree (p : LeafPath Res Scope Leaf) : ResourceLeaves Res Scope Leaf :=
  ⟨p.res.resource, [⟨p.scp.scope, [p.leaf], p.scp.schemaUrl⟩], p.res.schemaUrl⟩

-- The leaves of a forest in pre-order (resource, then scope, then leaf), with their containers.
def leafPaths (src : List (ResourceLeaves Res Scope Leaf)) : List (LeafPath Res Scope Leaf) :=
  src.flatMap fun r => r.scopes.flatMap fun s => s.leaves.map fun x => ⟨r, s, x⟩

-- `leafPaths` with each scope's leaves first given to `splitLeaves`.
def splitPaths (splitLeaves : List Leaf → List Leaf) (src : List (ResourceLeaves Res Scope Leaf)) :
    List (LeafPath Res Scope Leaf) :=
  src.flatMap fun r => r.scopes.flatMap fun s => (splitLeaves s.leaves).map fun x => ⟨r, s, x⟩

-- Whether a predicate holds of every leaf of a tree, read with the leaf's resource and scope.
def ResourceLeaves.all (q : Res → Scope → Leaf → Bool) (t : ResourceLeaves Res Scope Leaf) : Bool :=
  t.scopes.all fun s => s.leaves.all (q t.resource s.scope)

@[simp] theorem LeafPath.all_tree (q : Res → Scope → Leaf → Bool) (p : LeafPath Res Scope Leaf) :
    p.tree.all q = q p.res.resource p.scp.scope p.leaf := by
  simp [LeafPath.tree, ResourceLeaves.all]

-- Totals as sums.

-- A running total started at `a` is `a` plus the total started at zero.
theorem foldl_add_eq {α : Type} (g : α → Nat) (l : List α) (a : Nat) :
    l.foldl (fun acc x => acc + g x) a = a + (l.map g).foldr (· + ·) 0 := by
  induction l generalizing a with
  | nil => rfl
  | cons x l ih => rw [List.foldl_cons, ih, List.map_cons, List.foldr_cons]; omega

theorem length_flatMap_eq {α β : Type} (l : List α) (g : α → List β) :
    (l.flatMap g).length = (l.map fun a => (g a).length).foldr (· + ·) 0 := by
  induction l with
  | nil => rfl
  | cons a l ih => rw [List.flatMap_cons, List.length_append, ih]; rfl

-- The total is the sum over the resource containers of the sum over their scopes.
theorem total_eq (count : List Leaf → Nat) (src : List (ResourceLeaves Res Scope Leaf)) :
    total count src = (src.map fun t => (t.scopes.map fun s => count s.leaves).foldr (· + ·) 0).foldr (· + ·) 0 := by
  have hinner : (fun acc (t : ResourceLeaves Res Scope Leaf) =>
      t.scopes.foldl (fun acc s => acc + count s.leaves) acc) =
      fun acc t => acc + (t.scopes.map fun s => count s.leaves).foldr (· + ·) 0 := by
    funext acc t
    exact foldl_add_eq (fun s => count s.leaves) t.scopes acc
  rw [total, hinner]
  exact (foldl_add_eq _ src 0).trans (Nat.zero_add _)

section Split

variable (f : List Leaf → List Leaf)

-- The split is the list of one-leaf trees, one for each leaf the leaf split yields, in order.
theorem splitResources_eq (src : List (ResourceLeaves Res Scope Leaf)) :
    splitResources f src = (splitPaths f src).map LeafPath.tree := by
  simp [splitResources, splitScopes, splitPaths, LeafPath.tree, List.map_flatMap, Function.comp_def]

theorem mem_splitPaths {src : List (ResourceLeaves Res Scope Leaf)} {p : LeafPath Res Scope Leaf}
    (h : p ∈ splitPaths f src) : p.leaf ∈ f p.scp.leaves := by
  simp only [splitPaths, List.mem_flatMap, List.mem_map] at h
  obtain ⟨r, -, s, -, x, hx, rfl⟩ := h
  exact hx

theorem splitResources_cons (t : ResourceLeaves Res Scope Leaf) (ts : List (ResourceLeaves Res Scope Leaf)) :
    splitResources f (t :: ts) = splitResources f [t] ++ splitResources f ts := by
  simp [splitResources]

theorem splitResources_tree (p : LeafPath Res Scope Leaf) :
    splitResources f [p.tree] = (f [p.leaf]).map fun x => { p with leaf := x }.tree := by
  simp [splitResources, splitScopes, LeafPath.tree]

-- One-leaf trees whose leaf the leaf split keeps as it is are split into themselves.
theorem splitResources_map_tree {ps : List (LeafPath Res Scope Leaf)} (h : ∀ p ∈ ps, f [p.leaf] = [p.leaf]) :
    splitResources f (ps.map LeafPath.tree) = ps.map LeafPath.tree := by
  induction ps with
  | nil => rfl
  | cons p ps ih =>
    rw [List.map_cons, splitResources_cons, splitResources_tree, h p (.head _),
      ih fun q hq => h q (.tail _ hq)]
    rfl

-- Splitting twice is splitting once, when the leaf split keeps each leaf it yields.
theorem splitResources_idem (hf : ∀ ls, ∀ x ∈ f ls, f [x] = [x]) (src : List (ResourceLeaves Res Scope Leaf)) :
    splitResources f (splitResources f src) = splitResources f src := by
  rw [splitResources_eq f src]
  exact splitResources_map_tree f fun p hp => hf _ _ (mem_splitPaths f hp)

theorem length_splitResources (src : List (ResourceLeaves Res Scope Leaf)) :
    (splitResources f src).length = total (fun ls => (f ls).length) src := by
  simp only [splitResources, splitScopes, length_flatMap_eq, List.length_map, total_eq]

end Split

section Total

variable (count : List Leaf → Nat)

-- A forest of one-leaf trees whose leaves count one each totals the number of trees.
theorem total_map_tree {ps : List (LeafPath Res Scope Leaf)} (h : ∀ p ∈ ps, count [p.leaf] = 1) :
    total count (ps.map LeafPath.tree) = ps.length := by
  rw [total_eq]
  induction ps with
  | nil => rfl
  | cons p ps ih =>
    have hp : count [p.leaf] = 1 := h p (.head _)
    simp only [List.map_cons, List.map_nil, List.foldr_cons, List.foldr_nil, LeafPath.tree, hp, List.length_cons,
      ih fun q hq => h q (.tail _ hq)]
    omega

-- A split keeps the total when a leaf it yields counts one and a scope counts the leaves
-- the split makes of it.
theorem total_splitResources (f : List Leaf → List Leaf) (hc : ∀ ls, ∀ x ∈ f ls, count [x] = 1)
    (hf : ∀ ls, (f ls).length = count ls) (src : List (ResourceLeaves Res Scope Leaf)) :
    total count (splitResources f src) = total count src := by
  have hlen : (splitResources f src).length = total count src := by
    rw [length_splitResources]
    simp only [hf]
  rw [← hlen, splitResources_eq, total_map_tree count fun p hp => hc _ _ (mem_splitPaths f hp),
    List.length_map]

end Total

-- The split of leaves kept as they are (spans, log records): the one-leaf trees in
-- pre-order, as many as there are leaves, keeping the total, and split again into themselves.
theorem splitResources_id_spec (L : List (ResourceLeaves Res Scope Leaf)) :
    splitResources id L = (leafPaths L).map LeafPath.tree ∧
    (splitResources id L).length = total List.length L ∧
    total List.length (splitResources id L) = total List.length L ∧
    splitResources id (splitResources id L) = splitResources id L :=
  ⟨splitResources_eq id L, length_splitResources id L,
    total_splitResources List.length id (fun _ _ _ => rfl) (fun _ => rfl) L,
    splitResources_idem id (fun _ _ _ => rfl) L⟩

section Filter

variable (f : List Leaf → List Leaf)

@[simp] theorem andFilter_nil {T : Type} (r : Res) (s : Scope) (t : T) : andFilter [] r s t = true :=
  rfl

theorem andFilter_append {T : Type} (fs gs : List (Res → Scope → T → Bool)) (r : Res) (s : Scope) (t : T) :
    andFilter (fs ++ gs) r s t = (andFilter fs r s t && andFilter gs r s t) :=
  List.all_append

-- The filter keeps, in order, the one-leaf trees of the split whose leaf passes every filter.
theorem filterResources_eq (fs : List (Res → Scope → Leaf → Bool)) (src : List (ResourceLeaves Res Scope Leaf)) :
    filterResources f fs src =
      ((splitPaths f src).filter fun p => andFilter fs p.res.resource p.scp.scope p.leaf).map LeafPath.tree := by
  simp only [filterResources, splitResources_eq]
  induction splitPaths f src with
  | nil => rfl
  | cons p ps ih =>
    rw [List.map_cons, List.flatMap_cons, ih, List.filter_cons]
    by_cases h : andFilter fs p.res.resource p.scp.scope p.leaf <;> simp [h, LeafPath.tree]

theorem filterResources_eq_filter (fs : List (Res → Scope → Leaf → Bool)) (src : List (ResourceLeaves Res Scope Leaf)) :
    filterResources f fs src = (splitResources f src).filter (ResourceLeaves.all (andFilter fs)) := by
  simp [filterResources_eq, splitResources_eq, List.filter_map, Function.comp_def]

-- Filtering the filtered trees again is filtering once with both lists of filters.
theorem filterResources_filterResources (hf : ∀ ls, ∀ x ∈ f ls, f [x] = [x])
    (fs gs : List (Res → Scope → Leaf → Bool)) (src : List (ResourceLeaves Res Scope Leaf)) :
    filterResources f gs (filterResources f fs src) = filterResources f (fs ++ gs) src := by
  have hkeep : ∀ p ∈ (splitPaths f src).filter (fun p => andFilter fs p.res.resource p.scp.scope p.leaf),
      f [p.leaf] = [p.leaf] := fun p hp => hf _ _ (mem_splitPaths f (List.mem_filter.mp hp).1)
  rw [filterResources_eq_filter f gs, filterResources_eq f fs, splitResources_map_tree f hkeep, List.filter_map,
    List.filter_filter, filterResources_eq]
  simp [Function.comp_def, andFilter_append, Bool.and_comm]

theorem filterResources_nil (src : List (ResourceLeaves Res Scope Leaf)) :
    filterResources f [] src = splitResources f src := by
  simp [filterResources_eq, splitResources_eq, List.filter_eq_self.mpr]

-- The filter with its laws, for a leaf split that keeps each leaf it yields.
theorem filterResources_spec (hf : ∀ ls, ∀ x ∈ f ls, f [x] = [x]) (L : List (ResourceLeaves Res Scope Leaf))
    (fs gs : List (Res → Scope → Leaf → Bool)) :
    filterResources f fs L =
      ((splitPaths f L).filter fun p => fs.all fun g => g p.res.resource p.scp.scope p.leaf).map LeafPath.tree ∧
    filterResources f fs L = (splitResources f L).filter (ResourceLeaves.all fun r s x => fs.all fun g => g r s x) ∧
    filterResources f [] L = splitResources f L ∧
    filterResources f gs (filterResources f fs L) = filterResources f (fs ++ gs) L :=
  ⟨filterResources_eq f fs L, filterResources_eq_filter f fs L, filterResources_nil f L,
    filterResources_filterResources f hf fs gs L⟩

end Filter

end OtlpHelper.Partition
