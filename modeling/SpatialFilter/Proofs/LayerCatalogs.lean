import Mathlib.Data.List.Nodup
import Mathlib.Data.List.Perm.Basic
import SpatialFilter.Layer.Catalog

/-!
# Lists of layers as catalogs

A list of layers is a catalog when it follows three rules: every layer has a name, every layer has a
geometry column, and no name occurs twice (`Layer.FollowRules`).  Each breach of a rule belongs to a
position of the list (`Layer.FaultAt`), and a list that is refused is refused for the breach at the
first such position (`firstFault_eq_some_iff`).

The names of a catalog tell its layers apart, so that a name finds the one layer that has it, and
the order of the list makes no difference (`catalog_follows_rules`).
-/

namespace SpatialFilter

namespace Layer

/-- The layer at a position breaks a rule.  A missing name comes before missing columns, and these
before a name that an earlier layer has. -/
inductive FaultAt (layers : List Layer) (position : Nat) : CatalogError → Prop
  | unnamed {layer : Layer} (here : layers[position]? = some layer) (nameless : layer.name = "") :
    FaultAt layers position (.unnamed position)
  | noGeometryColumn {layer : Layer} (here : layers[position]? = some layer)
    (named : layer.name ≠ "") (bare : layer.geometryColumns = []) :
    FaultAt layers position (.noGeometryColumn layer.name)
  | declaredTwice {layer other : Layer} {earlier : Nat} (here : layers[position]? = some layer)
    (named : layer.name ≠ "") (some_column : layer.geometryColumns ≠ [])
    (before : earlier < position) (there : layers[earlier]? = some other)
    (same : other.name = layer.name) :
    FaultAt layers position (.declaredTwice layer.name)

/-- The error tells the breach at the first position that has one. -/
def IsFirstFault (layers : List Layer) (error : CatalogError) : Prop :=
  ∃ position, FaultAt layers position error ∧
    ∀ earlier < position, ∀ other, ¬ FaultAt layers earlier other

/-- The rules for a catalog. -/
structure FollowRules (layers : List Layer) : Prop where
  named : ∀ layer ∈ layers, layer.name ≠ ""
  some_column : ∀ layer ∈ layers, layer.geometryColumns ≠ []
  distinct : (layers.map Layer.name).Nodup

/-! ## Faults -/

/-- A position has at most one breach that counts. -/
theorem FaultAt.unique {layers : List Layer} {position : Nat} {error other : CatalogError}
    (fault : FaultAt layers position error) (fault_too : FaultAt layers position other) :
    error = other := by
  cases fault <;> cases fault_too <;> simp_all

theorem IsFirstFault.unique {layers : List Layer} {error other : CatalogError}
    (first : IsFirstFault layers error) (first_too : IsFirstFault layers other) :
    error = other := by
  obtain ⟨position, fault, faultless⟩ := first
  obtain ⟨position', fault', faultless'⟩ := first_too
  rcases Nat.lt_trichotomy position position' with less | rfl | more
  · exact absurd fault (faultless' position less error)
  · exact fault.unique fault'
  · exact absurd fault' (faultless position' more other)

/-- One step of the search: the layer behind `earlier` breaks a rule, and its breach is what is
found, or it breaks none, and the search goes on behind it. -/
theorem firstFault_cons (earlier : List Layer) (layer : Layer) (rest : List Layer) :
    (∃ error, FaultAt (earlier ++ layer :: rest) earlier.length error ∧
        firstFault? earlier (layer :: rest) = some error) ∨
      (∀ error, ¬ FaultAt (earlier ++ layer :: rest) earlier.length error) ∧
        firstFault? earlier (layer :: rest) = firstFault? (earlier ++ [layer]) rest := by
  have here : (earlier ++ layer :: rest)[earlier.length]? = some layer := by simp
  rw [firstFault?]
  split
  next nameless => exact .inl ⟨_, .unnamed here nameless, rfl⟩
  next named =>
    split
    next bare => exact .inl ⟨_, .noGeometryColumn here named bare, rfl⟩
    next some_column =>
      split
      next taken =>
        obtain ⟨other, member, same⟩ := List.any_eq_true.mp taken
        obtain ⟨position, before, rfl⟩ := List.mem_iff_getElem.mp member
        have there : (earlier ++ layer :: rest)[position]? = some earlier[position] := by
          rw [List.getElem?_append_left before, List.getElem?_eq_getElem before]
        exact .inl ⟨_, .declaredTwice here named some_column before there (beq_iff_eq.mp same),
          rfl⟩
      next free =>
        refine .inr ⟨fun error fault => ?_, rfl⟩
        cases fault with
        | unnamed at_end nameless =>
          cases here.symm.trans at_end
          exact named nameless
        | noGeometryColumn at_end _ bare =>
          cases here.symm.trans at_end
          exact some_column bare
        | declaredTwice at_end _ _ before there same =>
          cases here.symm.trans at_end
          rw [List.getElem?_append_left before] at there
          exact free (List.any_eq_true.mpr ⟨_, List.mem_of_getElem? there, beq_iff_eq.mpr same⟩)

/-- What the search finds is the first breach, and if it finds none there is none. -/
theorem firstFault_decides {earlier rest : List Layer}
    (faultless : ∀ position < earlier.length, ∀ error,
      ¬ FaultAt (earlier ++ rest) position error) :
    match firstFault? earlier rest with
    | none => ∀ position error, ¬ FaultAt (earlier ++ rest) position error
    | some error => IsFirstFault (earlier ++ rest) error := by
  induction rest generalizing earlier with
  | nil =>
    intro position error fault
    refine faultless position ?_ error fault
    rw [List.append_nil] at fault
    cases fault with
    | unnamed here => exact (List.getElem?_eq_some_iff.mp here).1
    | noGeometryColumn here => exact (List.getElem?_eq_some_iff.mp here).1
    | declaredTwice here => exact (List.getElem?_eq_some_iff.mp here).1
  | cons layer rest ih =>
    rcases firstFault_cons earlier layer rest with ⟨error, fault, found⟩ | ⟨sound, goes_on⟩
    · rw [found]
      exact ⟨earlier.length, fault, faultless⟩
    · rw [goes_on, List.append_cons earlier layer rest]
      apply ih
      intro position inside error
      rw [List.append_assoc, List.singleton_append]
      rcases Nat.lt_or_eq_of_le (Nat.le_of_lt_succ (by simpa using inside)) with less | rfl
      · exact faultless position less error
      · exact sound error

/-- The search finds an error exactly when it tells the first breach. -/
theorem firstFault_eq_some_iff {layers : List Layer} {error : CatalogError} :
    firstFault? [] layers = some error ↔ IsFirstFault layers error := by
  have decided := @firstFault_decides [] layers nofun
  constructor
  · intro found
    rwa [found] at decided
  · intro first
    cases found : firstFault? [] layers with
    | none =>
      rw [found] at decided
      obtain ⟨position, fault, -⟩ := first
      exact absurd fault (decided position error)
    | some other =>
      rw [found] at decided
      rw [first.unique decided]

theorem firstFault_eq_none_iff {layers : List Layer} :
    firstFault? [] layers = none ↔ ∀ position error, ¬ FaultAt layers position error := by
  have decided := @firstFault_decides [] layers nofun
  constructor
  · intro none_found
    rwa [none_found] at decided
  · intro faultless
    cases found : firstFault? [] layers with
    | none => rfl
    | some error =>
      rw [found] at decided
      obtain ⟨position, fault, -⟩ := decided
      exact absurd fault (faultless position error)

/-- No layer breaks a rule exactly when the list follows all of them. -/
theorem followRules_iff {layers : List Layer} :
    FollowRules layers ↔ ∀ position error, ¬ FaultAt layers position error := by
  constructor
  · rintro ⟨named, some_column, distinct⟩ position error fault
    cases fault with
    | unnamed here nameless => exact named _ (List.mem_of_getElem? here) nameless
    | noGeometryColumn here _ bare => exact some_column _ (List.mem_of_getElem? here) bare
    | declaredTwice here _ _ before there same =>
      rw [List.nodup_iff_getElem?_ne_getElem?] at distinct
      obtain ⟨inside, -⟩ := List.getElem?_eq_some_iff.mp here
      apply distinct _ position before (by simpa using inside)
      simp [here, there, same]
  · intro faultless
    have named : ∀ layer ∈ layers, layer.name ≠ "" := by
      intro layer member nameless
      obtain ⟨position, here⟩ := List.getElem?_of_mem member
      exact faultless position _ (.unnamed here nameless)
    have some_column : ∀ layer ∈ layers, layer.geometryColumns ≠ [] := by
      intro layer member bare
      obtain ⟨position, here⟩ := List.getElem?_of_mem member
      exact faultless position _ (.noGeometryColumn here (named layer member) bare)
    refine ⟨named, some_column, List.nodup_iff_getElem?_ne_getElem?.mpr ?_⟩
    intro earlier position before inside same
    rw [List.length_map] at inside
    have here := List.getElem?_eq_getElem inside
    have there := List.getElem?_eq_getElem (Nat.lt_trans before inside)
    have member := List.getElem_mem inside
    refine faultless position _ (.declaredTwice here (named _ member) (some_column _ member) before
      there ?_)
    simpa [here, there] using same

theorem FollowRules.perm {layers others : List Layer} (follow : FollowRules layers)
    (permuted : others.Perm layers) : FollowRules others where
  named layer member := follow.named layer (permuted.mem_iff.mp member)
  some_column layer member := follow.some_column layer (permuted.mem_iff.mp member)
  distinct := (permuted.map Layer.name).nodup_iff.mpr follow.distinct

/-! ## Names -/

/-- Among layers of distinct names, a name finds all layers that have it. -/
theorem filter_name_eq_toList {layers : List Layer} (distinct : (layers.map Layer.name).Nodup)
    (name : String) :
    layers.filter (fun layer => layer.name == name) =
      (layers.find? fun layer => layer.name == name).toList := by
  induction layers with
  | nil => rfl
  | cons layer rest ih =>
    rw [List.map_cons, List.nodup_cons] at distinct
    obtain ⟨fresh, rest_distinct⟩ := distinct
    by_cases same : layer.name = name
    · have others : rest.filter (fun layer => layer.name == name) = [] := by
        rw [List.filter_eq_nil_iff]
        intro other member named
        exact fresh (List.mem_map.mpr ⟨other, member, (beq_iff_eq.mp named).trans same.symm⟩)
      simp [same, others]
    · simp [same, ih rest_distinct]

/-- Among layers of distinct names, their order makes no difference to what a name finds. -/
theorem find_name_perm {layers others : List Layer} (distinct : (layers.map Layer.name).Nodup)
    (permuted : others.Perm layers) (name : String) :
    (others.find? fun layer => layer.name == name) =
      layers.find? fun layer => layer.name == name := by
  have distinct_too := (permuted.map Layer.name).nodup_iff.mpr distinct
  have same := permuted.filter fun layer => layer.name == name
  rw [filter_name_eq_toList distinct, filter_name_eq_toList distinct_too] at same
  cases found : layers.find? fun layer => layer.name == name with
  | none =>
    rw [found, Option.toList_none, List.perm_nil, Option.toList_eq_nil_iff] at same
    exact same
  | some layer =>
    rw [found, Option.toList_some, List.perm_singleton, Option.toList_eq_singleton_iff] at same
    exact same

end Layer

open Layer

namespace LayerCatalog

theorem followRules (catalog : LayerCatalog) : FollowRules catalog.layers :=
  followRules_iff.mpr (firstFault_eq_none_iff.mp catalog.faultless)

theorem ofList_eq_ok_iff {layers : List Layer} {catalog : LayerCatalog} :
    ofList layers = .ok catalog ↔ FollowRules layers ∧ catalog.layers = layers := by
  rw [followRules_iff, ← firstFault_eq_none_iff]
  unfold ofList
  split
  next faultless =>
    constructor
    · rintro ⟨⟩
      exact ⟨faultless, rfl⟩
    · rintro ⟨-, rfl⟩
      rfl
  next fault found => simp [found]

/-- A list is refused exactly for its first breach. -/
theorem ofList_eq_error_iff {layers : List Layer} {error : CatalogError} :
    ofList layers = .error error ↔ IsFirstFault layers error := by
  rw [← firstFault_eq_some_iff]
  unfold ofList
  split
  next faultless => simp [faultless]
  next fault found => simp [found]

theorem exists_ofList_iff {layers : List Layer} :
    (∃ catalog, ofList layers = .ok catalog) ↔ FollowRules layers := by
  constructor
  · rintro ⟨catalog, accepted⟩
    exact (ofList_eq_ok_iff.mp accepted).1
  · intro follow
    exact ⟨⟨layers, firstFault_eq_none_iff.mpr (followRules_iff.mp follow)⟩,
      ofList_eq_ok_iff.mpr ⟨follow, rfl⟩⟩

/-- A list of layers is a catalog exactly when it follows the rules, and it is refused for its first
breach of them.  In a catalog, a name finds the one layer that has it, or nothing if none has.  Any
other order of its layers is a catalog as well, in which every name finds the same. -/
theorem catalog_follows_rules (layers : List Layer) :
    ((∃ catalog, ofList layers = .ok catalog) ↔ FollowRules layers) ∧
      (∀ error, ofList layers = .error error ↔ IsFirstFault layers error) ∧
      ∀ catalog, ofList layers = .ok catalog →
        (∀ name, layers.filter (fun layer => layer.name == name) = (catalog.get? name).toList) ∧
        ∀ others, others.Perm layers → ∃ permuted, ofList others = .ok permuted ∧
          ∀ name, permuted.get? name = catalog.get? name ∧
            ∀ ε : Type, (permuted.require name : Except (Interruption ε) Layer) =
              catalog.require name := by
  refine ⟨exists_ofList_iff, fun error => ofList_eq_error_iff, fun catalog accepted => ?_⟩
  obtain ⟨follow, rfl⟩ := ofList_eq_ok_iff.mp accepted
  refine ⟨fun name => filter_name_eq_toList follow.distinct name, fun others permuted => ?_⟩
  obtain ⟨other, other_accepted⟩ := exists_ofList_iff.mpr (follow.perm permuted)
  obtain ⟨-, rfl⟩ := ofList_eq_ok_iff.mp other_accepted
  refine ⟨other, other_accepted, fun name => ?_⟩
  have found : other.get? name = catalog.get? name :=
    find_name_perm follow.distinct permuted name
  refine ⟨found, fun ε => ?_⟩
  rw [require, require, found]

/-- A missing name comes before missing columns, and a name that is repeated later does not matter
then. -/
example : ofList [⟨"roads", "public", 2154, .meters, ["geom"]⟩, ⟨"", "public", 4326, .degrees, []⟩,
    ⟨"roads", "public", 4326, .degrees, ["geom"]⟩] = .error (.unnamed 1) := rfl

end LayerCatalog

end SpatialFilter
