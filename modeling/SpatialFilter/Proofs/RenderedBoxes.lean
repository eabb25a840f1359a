import SpatialFilter.Extent.Basic
import SpatialFilter.Filter.Compile
import SpatialFilter.Proofs.EnvelopeEncodings
import SpatialFilter.Proofs.PlainTexts
import SpatialFilter.Proofs.SharedReference

/-!
# Boxes that are written and compiled

An extent is written into a filter with the plain texts of its coordinates, with a text for each
corner or in one text of coordinates.  Since every finite number is read back from its plain text,
the compiled envelope is the literal of that extent, number for number, where literals are written
in its srid.  A reference name on the element can stop the compilation, and changes nothing else.
-/

namespace SpatialFilter

open SpatialFilter.Number
open SpatialFilter.Markup
open SpatialFilter.Text

/-! ## Plain coordinates -/

/-- The plain text of a finite number as a coordinate. -/
def CoordinateText.ofFinite (value : Binary64) (finite : value.isFinite = true) :
    CoordinateText where
  chars := value.text.toList
  some_text := by
    intro empty
    have read := Binary64.read_text finite
    rw [empty] at read
    cases read
  noBlank := by
    intro c member
    rcases Binary64.text_chars finite member with digit | rfl | rfl
    · exact not_isBlank_of_isDigit digit
    · rfl
    · rfl
  noComma := by
    intro member
    rcases Binary64.text_chars finite member with digit | point | sign
    · cases digit
    · cases point
    · cases sign

theorem CoordinateText.ofFinite_writes {value : Binary64} (finite : value.isFinite = true) :
    (ofFinite value finite).Writes value :=
  ⟨Binary64.read_text finite, finite⟩

namespace Extent

variable {extent : Extent}

def envelope (extent : Extent) : Envelope :=
  ⟨⟨extent.xmin, extent.ymin⟩, ⟨extent.xmax, extent.ymax⟩⟩

/-- An extent of finite numbers is written in the plain texts of its coordinates. -/
theorem literal_of_finite (finite : ∀ value ∈ extent.coordinates, value.isFinite = true) :
    extent.literal = .ok (extent.envelope.sql extent.reference.srid) := by
  obtain ⟨sql, literal⟩ := boxLiteral_of_finite finite extent.reference.srid
  have sql_eq : sql = extent.envelope.sql extent.reference.srid :=
    boxLiteral_eq_ok (mapError_eq_ok.mpr literal)
  rw [← sql_eq]
  exact literal

/-- The coordinates of a finite extent in plain texts. -/
def written (extent : Extent) (finite : ∀ value ∈ extent.coordinates, value.isFinite = true) :
    EnvelopeText where
  lowerX := .ofFinite extent.xmin (finite _ (by simp [coordinates]))
  lowerY := .ofFinite extent.ymin (finite _ (by simp [coordinates]))
  upperX := .ofFinite extent.xmax (finite _ (by simp [coordinates]))
  upperY := .ofFinite extent.ymax (finite _ (by simp [coordinates]))

theorem written_writes (finite : ∀ value ∈ extent.coordinates, value.isFinite = true) :
    (extent.written finite).Writes extent.envelope where
  lowerX := CoordinateText.ofFinite_writes (finite _ (by simp [coordinates]))
  lowerY := CoordinateText.ofFinite_writes (finite _ (by simp [coordinates]))
  upperX := CoordinateText.ofFinite_writes (finite _ (by simp [coordinates]))
  upperY := CoordinateText.ofFinite_writes (finite _ (by simp [coordinates]))

/-- The extent as an element with a text for each corner. -/
def cornersElement (extent : Extent) : Element :=
  ⟨"Envelope", [], [
    .element "lowerCorner" [] [.text (extent.xmin.text ++ " " ++ extent.ymin.text)],
    .element "upperCorner" [] [.text (extent.xmax.text ++ " " ++ extent.ymax.text)]]⟩

/-- The extent as an element with one text of coordinates. -/
def coordinatesElement (extent : Extent) : Element :=
  ⟨"Box", [], [.element "coordinates" [] [.text (extent.xmin.text ++ "," ++ extent.ymin.text ++
    " " ++ extent.xmax.text ++ "," ++ extent.ymax.text)]]⟩

theorem cornersElement_encodes
    (finite : ∀ value ∈ extent.coordinates, value.isFinite = true) :
    Encodes (extent.written finite) extent.cornersElement := by
  have position : ∀ x y : Binary64,
      Shows [x.text.toList, y.text.toList] (x.text ++ " " ++ y.text).toList := by
    intro x y
    rw [String.toList_append, String.toList_append, List.append_assoc]
    exact shows_word_cons _ (by decide) (shows_word _)
  exact @Encodes.corners _ _
    ⟨"lowerCorner", [], [.text (extent.xmin.text ++ " " ++ extent.ymin.text)]⟩
    ⟨"upperCorner", [], [.text (extent.xmax.text ++ " " ++ extent.ymax.text)]⟩ rfl rfl
    (position _ _) (position _ _)

theorem coordinatesElement_encodes
    (finite : ∀ value ∈ extent.coordinates, value.isFinite = true) :
    Encodes (extent.written finite) extent.coordinatesElement := by
  have shown : Shows
      [extent.xmin.text.toList ++ ',' :: extent.ymin.text.toList,
        extent.xmax.text.toList ++ ',' :: extent.ymax.text.toList]
      (extent.xmin.text ++ "," ++ extent.ymin.text ++ " " ++ extent.xmax.text ++ "," ++
        extent.ymax.text).toList := by
    have shows := shows_word_cons (extent.xmin.text.toList ++ ',' :: extent.ymin.text.toList)
      (show Text.isBlank ' ' = true by decide)
      (shows_word (extent.xmax.text.toList ++ ',' :: extent.ymax.text.toList))
    simpa using shows
  exact @Encodes.commasInside _ _
    ⟨"coordinates", [], [.text (extent.xmin.text ++ "," ++ extent.ymin.text ++ " " ++
      extent.xmax.text ++ "," ++ extent.ymax.text)]⟩ rfl rfl rfl shown

end Extent

/-! ## Compiled envelopes -/

section Compiled

variable {context : Context} {layer : String} {srid : Int32} {element : Element}

/-- A reference name on the element, if there is one, mentions the srid. -/
def MentionsSrid (srid : Int32) (element : Element) : Prop :=
  ∀ name, element.attribute? "srsName" = some name →
    occursIn (int32Text srid).toList name.toList = true

/-- Where no name stands against it, an envelope is read and written. -/
theorem envelopeLiteral_eq_of_mentions (target : context.literalSrid layer = .ok srid)
    (mentions : MentionsSrid srid element) :
    context.envelopeLiteral layer element = (do
      let envelope ← Outcome.ofExcept (Envelope.ofElement element)
      rendered (Sql.boxLiteral envelope.lower.x envelope.lower.y envelope.upper.x envelope.upper.y
        srid)) := by
  unfold Context.envelopeLiteral
  rw [target]
  simp only [bind, Except.bind]
  cases named : element.attribute? "srsName" with
  | none => rfl
  | some name =>
    simp only [mentions name named]
    rfl

/-- Where no name contradicts the srid, an envelope becomes the literal of its corners. -/
theorem envelopeLiteral_of_mentions {envelope : Envelope}
    (target : context.literalSrid layer = .ok srid) (mentions : MentionsSrid srid element)
    (read : Envelope.ofElement element = .ok envelope) :
    context.envelopeLiteral layer element =
      rendered (Sql.boxLiteral envelope.lower.x envelope.lower.y envelope.upper.x
        envelope.upper.y srid) := by
  rw [envelopeLiteral_eq_of_mentions target mentions, read]
  rfl

/-- A name that does not mention the srid is refused before the envelope is read. -/
theorem envelopeLiteral_of_mismatch {name : String}
    (target : context.literalSrid layer = .ok srid)
    (named : element.attribute? "srsName" = some name)
    (other : occursIn (int32Text srid).toList name.toList = false) :
    context.envelopeLiteral layer element = Outcome.fail (.mismatchedReference name srid) := by
  unfold Context.envelopeLiteral
  rw [target, named]
  simp only [bind, Except.bind, other]
  rfl

/-- An extent of finite numbers is written as a box literal, and an element that writes its
coordinates in plain texts is compiled to the same literal where literals are in the srid of the
extent.  This is so for corners with a text each and for one text of coordinates, and the only thing
that can stop it is a reference name that does not mention the srid. -/
theorem written_extent_compiles_to_literal {extent : Extent} {context : Context} {layer : String}
    {element : Element} (finite : ∀ value ∈ extent.coordinates, value.isFinite = true)
    (target : context.literalSrid layer = .ok extent.reference.srid)
    (encodes : Encodes (extent.written finite) element) :
    extent.literal = .ok (extent.envelope.sql extent.reference.srid) ∧
      (MentionsSrid extent.reference.srid element →
        context.envelopeLiteral layer element =
          .ok (extent.envelope.sql extent.reference.srid)) ∧
      ∀ name, element.attribute? "srsName" = some name →
        occursIn (int32Text extent.reference.srid).toList name.toList = false →
        context.envelopeLiteral layer element =
          Outcome.fail (.mismatchedReference name extent.reference.srid) := by
  have literal := Extent.literal_of_finite finite
  have read : Envelope.ofElement element = .ok extent.envelope :=
    (ofElement_of_encodes encodes).mpr (Extent.written_writes finite)
  refine ⟨literal, ?_, fun name => envelopeLiteral_of_mismatch target⟩
  intro mentions
  rw [envelopeLiteral_of_mentions target mentions read]
  exact mapError_eq_ok.mpr literal

/-- A negative zero, the smallest magnitude, a tenth and ten to the 21st power. -/
def unevenExtent : Extent where
  xmin := .zero true
  ymin := .ranked false 1 (by decide)
  xmax := .ofUnits false unitsPerOne 10
  ymax := .ofUnits false (unitsPerOne * 10 ^ 21) 1
  reference := ⟨geographicSrid, "EPSG", geographicSrid, true⟩

/-- The extent is compiled from both elements to the literal that it has itself. -/
theorem uneven_extent_compiles :
    ∃ sql, unevenExtent.literal = .ok sql ∧
      roadContext.envelopeLiteral "roads" unevenExtent.cornersElement = .ok sql ∧
      roadContext.envelopeLiteral "roads" unevenExtent.coordinatesElement = .ok sql := by
  have finite : ∀ value ∈ unevenExtent.coordinates, value.isFinite = true := by decide +kernel
  have target : roadContext.literalSrid "roads" = .ok unevenExtent.reference.srid := rfl
  obtain ⟨literal, corners, -⟩ :=
    written_extent_compiles_to_literal finite target (Extent.cornersElement_encodes finite)
  obtain ⟨-, coordinates, -⟩ :=
    written_extent_compiles_to_literal finite target (Extent.coordinatesElement_encodes finite)
  exact ⟨_, literal, corners nofun, coordinates nofun⟩

end Compiled

end SpatialFilter
