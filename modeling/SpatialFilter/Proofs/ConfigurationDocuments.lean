import SpatialFilter.Configuration.Read
import SpatialFilter.Proofs.JsonValues

/-!
# Documents of configurations

A document tells a configuration when it holds an object with its members in any order
(`IsObject`): those that a layer or a configuration has, each at most once and with its own value,
and any others with plain values, which do not matter.  The schema, the geometry columns and the
list of layers may be missing where they are the standard ones.  Any such document is read as the
configuration, and what is written for a configuration is such a document
(`configuration_is_read_back`).
-/

namespace SpatialFilter

open SpatialFilter.Json
open SpatialFilter.Number
open SpatialFilter.Text (StopsAt)

namespace Configuration

/-! ## Records -/

/-- The members of an object that has these keys.  Members with one of the keys have it only once,
and their value is written as the field wants it.  Members with other keys are plain and do not
matter.  A key may be missing if it may be omitted. -/
structure IsObject (keys : List String) (field : String → List Char → Prop)
    (omissible : String → Prop) (entries : List (String × List Char)) : Prop where
  own : ∀ entry ∈ entries, entry.1 ∈ keys → field entry.1 entry.2
  foreign : ∀ entry ∈ entries, entry.1 ∉ keys → IsPlainValue entry.2
  once : entries.Pairwise fun first second => first.1 = second.1 → first.1 ∉ keys
  present : ∀ key ∈ keys, key ∉ entries.map Prod.fst → omissible key

/-- A text that writes such an object. -/
def WritesRecord (keys : List String) (field : String → List Char → Prop)
    (omissible : String → Prop) (text : List Char) : Prop :=
  ∃ entries, IsObject keys field omissible entries ∧
    Encloses '\x7b' '\x7d' WritesMember entries text

/-! ## Layers -/

def layerKeys : List String :=
  ["name", "schema", "srid", "unit", "geometry_columns"]

/-- How the fields of a layer are written. -/
inductive LayerField (layer : Layer) : String → List Char → Prop
  | name : LayerField layer "name" (writeText layer.name)
  | schema : LayerField layer "schema" (writeText layer.schema)
  | srid : LayerField layer "srid" (int32Text layer.srid).toList
  | unit : LayerField layer "unit" (writeText layer.unit.name)
  | geometryColumns {text : List Char}
    (columns : Encloses '[' ']' (fun column part => part = writeText column)
      layer.geometryColumns text) :
    LayerField layer "geometry_columns" text

/-- The keys that may be missing from a layer, because their values are the standard ones. -/
def LayerOmits (layer : Layer) (key : String) : Prop :=
  key = "schema" ∧ layer.schema = Layer.standardSchema ∨
    key = "geometry_columns" ∧ layer.geometryColumns = Layer.standardGeometryColumns

/-- A text that tells the layer. -/
def WritesLayer (layer : Layer) : List Char → Prop :=
  WritesRecord layerKeys (LayerField layer) (LayerOmits layer)

/-! ## Configurations -/

/-- How the field of a configuration is written. -/
inductive Field (configuration : Configuration) : String → List Char → Prop
  | layers {text : List Char}
    (written : Encloses '[' ']' WritesLayer configuration.layers text) :
    Field configuration "layers" text

/-- A text that tells the configuration.  The list of layers may be missing if it is empty. -/
def WritesConfiguration (configuration : Configuration) : List Char → Prop :=
  WritesRecord ["layers"] (Field configuration) fun _ => configuration.layers = []

/-- A document that tells the configuration and nothing else. -/
def Tells (document : String) (configuration : Configuration) : Prop :=
  Spaced WritesConfiguration configuration document.toList

/-! ## Reading records -/

/-- A member that has not been seen is read with its colon. -/
theorem reads_once {α : Type} {value : Scanner α} {text gap : List Char} {found : α} (key : String)
    (reads : Reads value text found) (blank : IsGap gap) :
    Reads (scanOnce key none value) (':' :: (gap ++ text)) (some found) := by
  intro lead rest lead_blank ends
  have read := (reads.behind blank).run ends
  rw [scanOnce]
  simp only [Option.isSome_none, Bool.false_eq_true, if_false, List.cons_append]
  rw [run_bind (run_expectChar lead_blank rfl _), run_bind read]
  rfl

/-- A member with another key is passed over and changes nothing. -/
theorem reads_foreign {σ : Type} {state : σ} {text gap : List Char} (plain : IsPlainValue text)
    (blank : IsGap gap) :
    Reads (do expectChar ':'; skip; return state) (':' :: (gap ++ text)) state := by
  intro lead rest lead_blank ends
  have read := ((reads_skip plain).behind blank).run ends
  rw [List.cons_append, run_bind (run_expectChar lead_blank rfl _), run_bind read]
  rfl

/-- A record is read as what its state comes to after all keys that the object has. -/
theorem reads_record {α σ : Type} {member : σ → String → Scanner σ} {keys : List String}
    (state : List String → σ) {field : String → List Char → Prop} {omissible : String → Prop}
    {finish : σ → Scanner α} {items : Scanner α} {value : α} {text : List Char} (expected : String)
    (steps : StepsThrough member keys state fun entry =>
      (entry.1 ∈ keys → field entry.1 entry.2) ∧ (entry.1 ∉ keys → IsPlainValue entry.2))
    (finishes : ∀ seen, (∀ key ∈ keys, key ∉ seen → omissible key) →
      finish (state seen) = pure value)
    (written : WritesRecord keys field omissible text) :
    Reads (scanRecord expected
      (do finish (← members keyText member (← bound) true (state []))) items) text value := by
  intro lead rest lead_blank _
  obtain ⟨entries, ⟨own, foreign, once, present⟩, parts, gap, spaced, blank, rfl⟩ := written
  have enough := length_lt_bound spaced (gap ++ '\x7d' :: rest) (by simp)
  have read := run_members steps spaced
    (fun entry member => ⟨own entry member, foreign entry member⟩) once
    (fun _ _ _ => List.not_mem_nil) true enough isGap_nil blank rest
  rw [List.nil_append] at read
  have finished := finishes ((entries.map Prod.fst).reverse ++ []) (by simpa using present)
  have object : (do finish (← members keyText member (← bound) true (state []))).run
      (listed true parts ++ (gap ++ '\x7d' :: rest)) = .ok (value, '\x7d' :: rest) := by
    rw [run_bound_bind, run_bind read, finished]
    rfl
  rw [separated_eq_listed, scanRecord]
  simp only [List.cons_append, List.append_assoc, List.nil_append]
  rw [run_bind (run_peek lead_blank rfl _)]
  simp only [if_true]
  rw [run_advance_bind, run_bind object, run_bind (run_mark rfl rest)]
  rfl

/-! ## Reading layers -/

theorem reads_unit (unit : CoordinateUnit) : Reads scanUnit (writeText unit.name) unit := by
  intro lead rest lead_blank _
  rw [writeText_append, scanUnit, run_bind (run_peek lead_blank rfl _)]
  simp only [if_true]
  rw [run_advance_bind, run_bind (run_stringContent unit.name rest)]
  cases unit <;> rfl

theorem reads_columns {columns : List String} {text : List Char}
    (written : Encloses '[' ']' (fun column part => part = writeText column) columns text) :
    Reads scanColumns text columns := by
  refine reads_array ?_ ?_ _ written
  · rintro column part rfl
    exact reads_text column
  · rintro column part rfl
    exact ⟨'"', _, rfl, rfl, by decide⟩

/-- The fields of a layer whose keys have been seen. -/
def seenFields (layer : Layer) (seen : List String) : PartialLayer where
  name := if "name" ∈ seen then some layer.name else none
  schema := if "schema" ∈ seen then some layer.schema else none
  srid := if "srid" ∈ seen then some layer.srid else none
  unit := if "unit" ∈ seen then some layer.unit else none
  geometryColumns := if "geometry_columns" ∈ seen then some layer.geometryColumns else none

/-- Each member of a layer is one more field that has been seen, or none if its key is not one of a
layer. -/
theorem steps_layer (layer : Layer) :
    StepsThrough scanLayerMember layerKeys (seenFields layer) fun entry =>
      (entry.1 ∈ layerKeys → LayerField layer entry.1 entry.2) ∧
        (entry.1 ∉ layerKeys → IsPlainValue entry.2) := by
  rintro seen key value ⟨own, foreign⟩ unseen gap blank
  by_cases known : key ∈ layerKeys
  · have fresh := unseen known
    cases own known with
    | name =>
      have unread : (seenFields layer seen).name = none := if_neg fresh
      have next : seenFields layer ("name" :: seen) =
          { seenFields layer seen with name := some layer.name } := by simp [seenFields]
      simp only [scanLayerMember, unread, next]
      exact (reads_once "name" (reads_text layer.name) blank).map fun name =>
        { seenFields layer seen with name }
    | schema =>
      have unread : (seenFields layer seen).schema = none := if_neg fresh
      have next : seenFields layer ("schema" :: seen) =
          { seenFields layer seen with schema := some layer.schema } := by simp [seenFields]
      simp only [scanLayerMember, unread, next]
      exact (reads_once "schema" (reads_text layer.schema) blank).map fun schema =>
        { seenFields layer seen with schema }
    | srid =>
      have unread : (seenFields layer seen).srid = none := if_neg fresh
      have next : seenFields layer ("srid" :: seen) =
          { seenFields layer seen with srid := some layer.srid } := by simp [seenFields]
      simp only [scanLayerMember, unread, next]
      exact (reads_once "srid" (reads_int32 layer.srid) blank).map fun srid =>
        { seenFields layer seen with srid }
    | unit =>
      have unread : (seenFields layer seen).unit = none := if_neg fresh
      have next : seenFields layer ("unit" :: seen) =
          { seenFields layer seen with unit := some layer.unit } := by simp [seenFields]
      simp only [scanLayerMember, unread, next]
      exact (reads_once "unit" (reads_unit layer.unit) blank).map fun unit =>
        { seenFields layer seen with unit }
    | geometryColumns columns =>
      have unread : (seenFields layer seen).geometryColumns = none := if_neg fresh
      have next : seenFields layer ("geometry_columns" :: seen) =
          { seenFields layer seen with geometryColumns := some layer.geometryColumns } := by
        simp [seenFields]
      simp only [scanLayerMember, unread, next]
      exact (reads_once "geometry_columns" (reads_columns columns) blank).map
        fun geometryColumns => { seenFields layer seen with geometryColumns }
  · have plain := foreign known
    simp only [layerKeys, List.mem_cons, List.not_mem_nil, or_false, not_or] at known
    obtain ⟨name, schema, srid, unit, columns⟩ := known
    have passed : scanLayerMember (seenFields layer seen) key = (do
        expectChar ':'
        skip
        return seenFields layer seen) := by
      unfold scanLayerMember
      split <;> first | contradiction | rfl
    have next : seenFields layer (key :: seen) = seenFields layer seen := by
      simp [seenFields, Ne.symm name, Ne.symm schema, Ne.symm srid, Ne.symm unit, Ne.symm columns]
    rw [passed, next]
    exact reads_foreign plain blank

/-- The fields that have been seen are the layer, if no others are missing than may be omitted. -/
theorem complete_seenFields {layer : Layer} {seen : List String}
    (present : ∀ key ∈ layerKeys, key ∉ seen → LayerOmits layer key) :
    (seenFields layer seen).complete = .ok layer := by
  have name : "name" ∈ seen := by
    by_contra missing
    simpa [LayerOmits] using present "name" (by decide) missing
  have srid : "srid" ∈ seen := by
    by_contra missing
    simpa [LayerOmits] using present "srid" (by decide) missing
  have unit : "unit" ∈ seen := by
    by_contra missing
    simpa [LayerOmits] using present "unit" (by decide) missing
  have schema : (seenFields layer seen).schema.getD Layer.standardSchema = layer.schema := by
    by_cases shown : "schema" ∈ seen
    · rw [seenFields, if_pos shown, Option.getD_some]
    · have standard : layer.schema = Layer.standardSchema := by
        simpa [LayerOmits] using present "schema" (by decide) shown
      rw [seenFields, if_neg shown, Option.getD_none, standard]
  have columns : (seenFields layer seen).geometryColumns.getD Layer.standardGeometryColumns =
      layer.geometryColumns := by
    by_cases shown : "geometry_columns" ∈ seen
    · rw [seenFields, if_pos shown, Option.getD_some]
    · have standard : layer.geometryColumns = Layer.standardGeometryColumns := by
        simpa [LayerOmits] using present "geometry_columns" (by decide) shown
      rw [seenFields, if_neg shown, Option.getD_none, standard]
  unfold PartialLayer.complete
  rw [schema, columns]
  simp [seenFields, name, srid, unit]

/-- A text that tells a layer is read as that layer. -/
theorem reads_layer {layer : Layer} {text : List Char} (written : WritesLayer layer text) :
    Reads scanLayer text layer := by
  refine reads_record (seenFields layer) "struct Layer" (steps_layer layer)
    (fun seen present => ?_) written
  rw [complete_seenFields present]

/-! ## Reading configurations -/

/-- The list of layers, if its key has been seen. -/
def seenLayers (configuration : Configuration) (seen : List String) : Option (List Layer) :=
  if "layers" ∈ seen then some configuration.layers else none

theorem steps_configuration (configuration : Configuration) :
    StepsThrough scanMember ["layers"] (seenLayers configuration) fun entry =>
      (entry.1 ∈ ["layers"] → Field configuration entry.1 entry.2) ∧
        (entry.1 ∉ ["layers"] → IsPlainValue entry.2) := by
  rintro seen key value ⟨own, foreign⟩ unseen gap blank
  by_cases known : key ∈ ["layers"]
  · have fresh := unseen known
    cases own known with
    | layers written =>
      have unread : seenLayers configuration seen = none := if_neg fresh
      have next : seenLayers configuration ("layers" :: seen) = some configuration.layers := by
        simp [seenLayers]
      have read : Reads scanLayers value configuration.layers := by
        refine reads_array (fun _ _ => reads_layer) ?_ "a sequence" written
        rintro layer text ⟨entries, -, parts, gap, -, -, rfl⟩
        exact ⟨'\x7b', _, rfl, rfl, by decide⟩
      rw [unread, next, scanMember, if_pos rfl]
      exact reads_once "layers" read blank
  · have plain := foreign known
    have other : key ≠ "layers" := fun same => known (List.mem_singleton.mpr same)
    have next : seenLayers configuration (key :: seen) = seenLayers configuration seen := by
      simp [seenLayers, Ne.symm other]
    rw [next, scanMember, if_neg other]
    exact reads_foreign plain blank

theorem reads_configuration {configuration : Configuration} {text : List Char}
    (written : WritesConfiguration configuration text) : Reads scan text configuration := by
  refine reads_record (seenLayers configuration) "struct ServiceConfig"
    (steps_configuration configuration) (fun seen present => ?_) written
  have layers : (seenLayers configuration seen).getD [] = configuration.layers := by
    by_cases shown : "layers" ∈ seen
    · rw [seenLayers, if_pos shown, Option.getD_some]
    · rw [seenLayers, if_neg shown, Option.getD_none]
      exact (present "layers" (by decide) shown).symm
  rw [layers]

/-- A document that tells a configuration is read as that configuration. -/
theorem ofText_of_tells {document : String} {configuration : Configuration}
    (tells : Tells document configuration) : ofText document = .ok configuration := by
  obtain ⟨before, text, after, before_blank, after_blank, written, document_eq⟩ := tells
  have found := reads_configuration written before after before_blank after_blank.stopsAt
  have scanned : scanDocument.run document.toList = .ok (configuration, []) := by
    rw [document_eq, scanDocument, run_bind found, run_bind (run_peek_of_gap after_blank)]
    rfl
  rw [ofText, read, scanned]
  rfl

/-! ## Writing configurations -/

theorem spaced_self {α : Type} {writes : α → List Char → Prop} {value : α} {text : List Char}
    (written : writes value text) : Spaced writes value text :=
  ⟨[], text, [], isGap_nil, isGap_nil, written, (List.append_nil text).symm⟩

/-- What is written without blanks encloses its values. -/
theorem encloses_map {α : Type} {writes : α → List Char → Prop} {values : List α}
    {write : α → List Char} (written : ∀ value ∈ values, writes value (write value))
    (opening closing : Char) :
    Encloses opening closing writes values
      (opening :: separated (values.map write) ++ [closing]) := by
  refine ⟨values.map write, [], ?_, isGap_nil, by simp⟩
  rw [List.forall₂_map_right_iff, List.forall₂_same]
  exact fun value member => spaced_self (written value member)

theorem encloses_writeArray {α : Type} {writes : α → List Char → Prop} {values : List α}
    {write : α → List Char} (written : ∀ value ∈ values, writes value (write value)) :
    Encloses '[' ']' writes values (writeArray (values.map write)) :=
  encloses_map written _ _

theorem encloses_writeObject (entries : List (String × List Char)) :
    Encloses '\x7b' '\x7d' WritesMember entries (writeObject entries) :=
  encloses_map (fun _ _ => ⟨[], [], isGap_nil, isGap_nil, rfl⟩) _ _

theorem writesLayer_writeLayer (layer : Layer) : WritesLayer layer (writeLayer layer) := by
  refine ⟨_, ⟨?_, ?_, ?_, ?_⟩, encloses_writeObject _⟩
  · intro entry member _
    simp only [List.mem_cons, List.not_mem_nil, or_false] at member
    rcases member with rfl | rfl | rfl | rfl | rfl
    · exact .name
    · exact .schema
    · exact .srid
    · exact .unit
    · exact .geometryColumns (encloses_writeArray fun _ _ => rfl)
  · intro entry member unknown
    exact absurd (List.mem_map_of_mem member) unknown
  · simp
  · intro key known missing
    exact absurd known missing

/-- The document that is written for a configuration tells it. -/
theorem tells_write (configuration : Configuration) : Tells configuration.write configuration := by
  unfold Tells write
  rw [String.toList_ofList]
  refine spaced_self ⟨_, ⟨?_, ?_, ?_, ?_⟩, encloses_writeObject _⟩
  · intro entry member _
    obtain rfl := List.mem_singleton.mp member
    exact .layers (encloses_writeArray fun layer _ => writesLayer_writeLayer layer)
  · intro entry member unknown
    exact absurd (List.mem_map_of_mem member) unknown
  · exact List.pairwise_singleton _ _
  · intro key known missing
    exact absurd known missing

/-- What is written for a configuration is read back.  It is one of the documents that tell the
configuration, with their keys in any order, without those that may be omitted and with others that
do not matter, and all of these documents are read as the configuration. -/
theorem configuration_is_read_back (configuration : Configuration) :
    ofText configuration.write = .ok configuration ∧
      Tells configuration.write configuration ∧
      ∀ document, Tells document configuration → ofText document = .ok configuration :=
  ⟨ofText_of_tells (tells_write configuration), tells_write configuration,
    fun _ => ofText_of_tells⟩

/-! ## A document of another make -/

/-- A layer with the standard schema and the standard geometry column. -/
def quotedLayer : Layer :=
  ⟨"\"é\t", "public", -7, .degrees, ["the_geom"]⟩

/-- Its members in another order and with one that layers do not have. -/
def quotedMembers : List (String × List Char) :=
  [("unit", writeText "degrees"), ("live", ['t', 'r', 'u', 'e']), ("name", writeText "\"é\t"),
    ("srid", ['-', '7'])]

theorem quotedMembers_isObject :
    IsObject layerKeys (LayerField quotedLayer) (LayerOmits quotedLayer) quotedMembers where
  own := by
    intro entry member known
    simp only [quotedMembers, List.mem_cons, List.not_mem_nil, or_false] at member
    rcases member with rfl | rfl | rfl | rfl
    · exact .unit
    · exact absurd known (by decide)
    · exact .name
    · exact .srid
  foreign := by
    intro entry member unknown
    simp only [quotedMembers, List.mem_cons, List.not_mem_nil, or_false] at member
    rcases member with rfl | rfl | rfl | rfl
    · exact absurd (by decide) unknown
    · exact .yes
    · exact absurd (by decide) unknown
    · exact absurd (by decide) unknown
  once := by simp [quotedMembers]
  present := by
    intro key known missing
    simp only [layerKeys, List.mem_cons, List.not_mem_nil, or_false] at known
    rcases known with rfl | rfl | rfl | rfl | rfl
    · exact absurd (by decide) missing
    · exact .inl ⟨rfl, rfl⟩
    · exact absurd (by decide) missing
    · exact absurd (by decide) missing
    · exact .inr ⟨rfl, rfl⟩

/-- A text of these members, with a blank here and there. -/
def quotedText : List Char :=
  "\x7b\"unit\":\"degrees\",\"live\" :true, \"name\":\"\\\"é\\t\",\"srid\":-7\x7d".toList

theorem writesLayer_quotedText : WritesLayer quotedLayer quotedText := by
  have spaced : ∀ (entry : String × List Char) (before gap : List Char), IsGap before →
      IsGap gap → Spaced WritesMember entry
        (before ++ ((writeText entry.1 ++ (gap ++ ':' :: entry.2)) ++ [])) :=
    fun entry before gap before_blank blank =>
      ⟨before, _, [], before_blank, isGap_nil, ⟨gap, [], blank, isGap_nil, rfl⟩, rfl⟩
  refine ⟨quotedMembers, quotedMembers_isObject, _, [],
    .cons (spaced _ [] [] isGap_nil isGap_nil)
      (.cons (spaced _ [] [' '] isGap_nil (isGap_singleton rfl))
        (.cons (spaced _ [' '] [] (isGap_singleton rfl) isGap_nil)
          (.cons (spaced _ [] [] isGap_nil isGap_nil) .nil))), isGap_nil, ?_⟩
  decide +kernel

/-- A document of that layer only, with a member that configurations do not have. -/
def quotedDocument : String :=
  "\x7b\"note\":null,\"layers\":[" ++ String.ofList quotedText ++ "]\x7d\n"

theorem quotedDocument_tells : Tells quotedDocument ⟨[quotedLayer]⟩ := by
  have list : Encloses '[' ']' WritesLayer [quotedLayer]
      (writeArray ([quotedLayer].map fun _ => quotedText)) := by
    apply encloses_writeArray
    intro layer member
    obtain rfl := List.mem_singleton.mp member
    exact writesLayer_quotedText
  have note : Spaced WritesMember ("note", ['n', 'u', 'l', 'l']) _ :=
    spaced_self ⟨[], [], isGap_nil, isGap_nil, rfl⟩
  have layers : Spaced WritesMember ("layers", writeArray [quotedText]) _ :=
    spaced_self ⟨[], [], isGap_nil, isGap_nil, rfl⟩
  refine ⟨[], _, ['\n'], isGap_nil, isGap_singleton rfl, ⟨_, ⟨?_, ?_, ?_, ?_⟩, _, [],
    .cons note (.cons layers .nil), isGap_nil, rfl⟩, ?_⟩
  · intro entry member known
    simp only [List.mem_cons, List.not_mem_nil, or_false] at member
    rcases member with rfl | rfl
    · exact absurd known (by decide)
    · exact .layers list
  · intro entry member unknown
    simp only [List.mem_cons, List.not_mem_nil, or_false] at member
    rcases member with rfl | rfl
    · exact .null
    · exact absurd (by decide) unknown
  · simp
  · intro key known missing
    exact absurd (List.mem_cons_of_mem _ known) missing
  · decide +kernel

/-- The document is read as the configuration of that layer. -/
theorem reordered_document_is_read :
    Tells quotedDocument ⟨[quotedLayer]⟩ ∧ ofText quotedDocument = .ok ⟨[quotedLayer]⟩ :=
  ⟨quotedDocument_tells, (configuration_is_read_back ⟨[quotedLayer]⟩).2.2 _ quotedDocument_tells⟩

end Configuration

end SpatialFilter
