import SpatialFilter.Proofs.EnvelopeReadings
import SpatialFilter.Proofs.LookupResults
import SpatialFilter.Proofs.RenderedBoxes
import SpatialFilter.Proofs.SridNames

/-!
# Names on envelopes

An envelope may carry the name of its reference.  Compiling looks for the text of the target srid
anywhere in that name, while a lookup reads the srid that the name gives.  The two agree on every
name of the target: its code is written with a sign, zeros and then the digits of the srid, so that
the text of the srid ends the code (`occursIn_of_sridOfName`).  A name that gives the target srid
therefore leaves the compiled envelope as it is without a name, failures included.

This needs a srid of at least zero.  Between the minus of a negative one and its digits there may
stand zeros, which hide its text.
-/

namespace SpatialFilter

open SpatialFilter.Number
open SpatialFilter.Markup
open SpatialFilter.Text
open SpatialFilter.Database

/-! ## Texts in names -/

/-- A name mentions the text of the srid that it gives. -/
theorem occursIn_of_sridOfName {name : String} {srid : Int32} (named : sridOfName? name = some srid)
    (nonneg : 0 ≤ srid.toInt) : occursIn (int32Text srid).toList name.toList = true := by
  obtain ⟨encoding, -, segments, before, numeral, after, name_eq, -, -, -, writes, -⟩ :=
    sridOfName_eq_some_iff.mp named
  obtain ⟨front, numeral_eq⟩ := writes.integerText_isSuffix nonneg
  rw [occursIn_iff_isInfix, name_eq, ← numeral_eq]
  refine ⟨encoding.lead.toList ++ (segments ++ (before ++ front)), after, ?_⟩
  simp only [List.append_assoc]
  rfl

/-- The text of a negative srid can be hidden by zeros. -/
example : sridOfName? "EPSG:-05" = some (-5) ∧
    occursIn (int32Text (-5)).toList "EPSG:-05".toList = false := by
  decide +kernel

/-- A name that resolves gives the srid of its reference. -/
theorem sridOfName_of_resolveName {name : String} {server : Server} {earlier : List String}
    {reference : SpatialReference}
    (resolved : (SpatialReference.resolveName name).result server earlier = .ok reference) :
    sridOfName? name = some reference.srid := by
  unfold SpatialReference.resolveName at resolved
  cases named : sridOfName? name with
  | none =>
    rw [named] at resolved
    cases resolved
  | some srid =>
    rw [named] at resolved
    rw [resolveSrid_srid resolved]

/-! ## Named envelopes -/

theorem attribute?_eq_none_iff {element : Element} {key : String} :
    element.attribute? key = none ↔ ∀ entry ∈ element.attributes, entry.1 ≠ key := by
  simp [Element.attribute?, List.find?_eq_none]

/-- An attribute that is added to an element without it has the added value. -/
theorem attribute?_of_added {element : Element} {key value : String}
    {before after : List (String × String)} (missing : ∀ entry ∈ before, entry.1 ≠ key)
    (added : element.attributes = before ++ (key, value) :: after) :
    element.attribute? key = some value := by
  have passed : before.find? (fun entry => entry.1 == key) = none := by
    simpa [List.find?_eq_none] using missing
  simp [Element.attribute?, added, List.find?_append, passed]

section Named

variable {context : Context} {layer : String} {srid : Int32} {element : Element}

/-- An envelope whose name does not stand against it never fails at a name. -/
theorem envelopeLiteral_ne_mismatch (target : context.literalSrid layer = .ok srid)
    (mentions : MentionsSrid srid element) (name : String) (other : Int32) :
    context.envelopeLiteral layer element ≠ Outcome.fail (.mismatchedReference name other) := by
  intro failed
  rw [envelopeLiteral_eq_of_mentions target mentions] at failed
  have reading := Envelope.ofElement_yields element
  rcases bind_eq_error.mp failed with unread | ⟨envelope, read, unwritten⟩
  · obtain ⟨error, fault, shown⟩ := mapError_eq_error.mp unread
    cases shown
    cases reading.fault _ fault
  · have finite := reading.value envelope (mapError_eq_ok.mp read)
    obtain ⟨sql, written⟩ := finite.exists_boxLiteral srid
    rw [written] at unwritten
    cases unwritten

/-- A name that gives a srid holds its digits, and so mentions it unless it is negative. -/
theorem mentionsSrid_of_name {name : String} (nonneg : 0 ≤ srid.toInt)
    (carried : element.attribute? "srsName" = some name) (named : sridOfName? name = some srid) :
    MentionsSrid srid element := by
  intro other shown
  rw [carried, Option.some.injEq] at shown
  subst shown
  exact occursIn_of_sridOfName named nonneg

end Named

/-- Where envelopes are written in a srid of at least zero, a name that gives this srid makes no
difference: wherever it is added among the attributes of an element that has none, the element
compiles to the same SQL or fails with the same error.  No element that carries such a name fails at
it, in particular none whose name resolves to a reference with the srid. -/
theorem name_of_target_changes_nothing {context : Context} {layer : String} {srid : Int32}
    (target : context.literalSrid layer = .ok srid) (nonneg : 0 ≤ srid.toInt) :
    (∀ (element : Element) (before after : List (String × String)) (name : String),
        element.attribute? "srsName" = none → element.attributes = before ++ after →
        sridOfName? name = some srid →
        context.envelopeLiteral layer
            { element with attributes := before ++ ("srsName", name) :: after } =
          context.envelopeLiteral layer element) ∧
      (∀ (element : Element) (name : String), element.attribute? "srsName" = some name →
        sridOfName? name = some srid → ∀ shown other,
          context.envelopeLiteral layer element ≠
            Outcome.fail (.mismatchedReference shown other)) ∧
      ∀ (element : Element) (name : String), element.attribute? "srsName" = some name →
        ∀ server earlier reference,
          (SpatialReference.resolveName name).result server earlier = .ok reference →
          reference.srid = srid → ∀ shown other,
            context.envelopeLiteral layer element ≠
              Outcome.fail (.mismatchedReference shown other) := by
  refine ⟨?_, ?_, ?_⟩
  · intro element before after name unnamed parts named
    have missing : ∀ entry ∈ before, entry.1 ≠ "srsName" := by
      intro entry member
      apply attribute?_eq_none_iff.mp unnamed
      rw [parts]
      exact List.mem_append_left after member
    have carried : Element.attribute?
        { element with attributes := before ++ ("srsName", name) :: after } "srsName" =
          some name :=
      attribute?_of_added missing rfl
    have unmentioned : MentionsSrid srid element := by
      intro other shown
      rw [unnamed] at shown
      cases shown
    rw [envelopeLiteral_eq_of_mentions target (mentionsSrid_of_name nonneg carried named),
      envelopeLiteral_eq_of_mentions target unmentioned]
    -- The attributes of an envelope are not read.
    rfl
  · intro element name carried named
    exact envelopeLiteral_ne_mismatch target (mentionsSrid_of_name nonneg carried named)
  · intro element name carried server earlier reference resolved same
    have named := sridOfName_of_resolveName resolved
    rw [same] at named
    exact envelopeLiteral_ne_mismatch target (mentionsSrid_of_name nonneg carried named)

/-- A version, a sign, a zero and a blank around the srid leave the envelope of degrees as it is,
and a box that cannot be read keeps its error. -/
theorem degrees_named_at_length :
    roadContext.envelopeLiteral "roads" { degreeEnvelope with
        attributes := [("srsName", "urn:ogc:def:crs:EPSG:6.3:+04326 ")] } =
        .ok "setsrid('BOX(1 2,3 4)'::box2d,4326)" ∧
      roadContext.envelopeLiteral "roads" ⟨"Box", [("srsName", "EPSG:04326")], []⟩ =
        Outcome.fail (.structural .noCoordinates) := by
  have target : roadContext.literalSrid "roads" = .ok 4326 := rfl
  obtain ⟨same, -, -⟩ := name_of_target_changes_nothing target (by decide)
  constructor
  · have versioned := same degreeEnvelope [] [] "urn:ogc:def:crs:EPSG:6.3:+04326 " rfl rfl
      (by decide +kernel)
    rw [List.nil_append] at versioned
    rw [versioned]
    exact eq_ok_of_toOption (by decide +kernel)
  · have padded := same ⟨"Box", [], []⟩ [] [] "EPSG:04326" rfl rfl (by decide +kernel)
    rw [List.nil_append] at padded
    rw [padded]
    rfl

end SpatialFilter
