import Chatik.Library.Sequences
import Chatik.Platform
import Mathlib.Data.List.Basic

/-!
# Firestore documents, snapshots and references

Document contents are untyped dictionaries; a reader casts each field to the
type it expects (`as? String`, `as? Timestamp`).  References are paths of
segments.  `ResourcePath::FromString` splits a path at its slashes and drops
empty segments; the paths it rejects (those with `//`, or of the wrong parity)
raise an exception and are no concern of the functions modelled here.  The ID
of a document is one segment, and a snapshot of a collection holds each ID once.
A `Write` records a call of `addDocument(data:)` on a collection.
-/

namespace Chatik

abbrev Dictionary (α : Type) := String → Option α

inductive FieldValue where
  | null
  | boolean (value : Bool)
  | integer (value : Int)
  | double (bits : UInt64)
  | string (value : String)
  | timestamp (value : Timestamp)
  | blob (bytes : List UInt8)
  | geoPoint (latitudeBits longitudeBits : UInt64)
  | reference (path : List String)
  | array (values : List FieldValue)
  | map (fields : List (String × FieldValue))

namespace FieldValue

def string? : FieldValue → Option String
  | .string value => some value
  | _ => none

def timestamp? : FieldValue → Option Timestamp
  | .timestamp value => some value
  | _ => none

theorem string?_eq_some {field : FieldValue} {value : String} :
    field.string? = some value ↔ field = .string value := by
  cases field <;> simp [string?]

theorem timestamp?_eq_some {field : FieldValue} {value : Timestamp} :
    field.timestamp? = some value ↔ field = .timestamp value := by
  cases field <;> simp [timestamp?]

end FieldValue

def stringField (dictionary : Dictionary FieldValue) (key : String) :
    Option String :=
  (dictionary key).bind FieldValue.string?

def timestampField (dictionary : Dictionary FieldValue) (key : String) :
    Option Timestamp :=
  (dictionary key).bind FieldValue.timestamp?

theorem stringField_eq_some {dictionary : Dictionary FieldValue}
    {key value : String} :
    stringField dictionary key = some value ↔
      dictionary key = some (.string value) := by
  simp [stringField, Option.bind_eq_some_iff, FieldValue.string?_eq_some]

theorem timestampField_eq_some {dictionary : Dictionary FieldValue}
    {key : String} {value : Timestamp} :
    timestampField dictionary key = some value ↔
      dictionary key = some (.timestamp value) := by
  simp [timestampField, Option.bind_eq_some_iff, FieldValue.timestamp?_eq_some]

/-! ## References -/

def segments (path : String) : List String :=
  ((path.toList.splitOn '/').filter (· ≠ [])).map String.ofList

structure CollectionReference where
  path : List String
  deriving DecidableEq

structure DocumentReference where
  path : List String
  deriving DecidableEq

def collection (path : String) : CollectionReference := ⟨segments path⟩

def CollectionReference.document (reference : CollectionReference)
    (path : String) : DocumentReference :=
  ⟨reference.path ++ segments path⟩

def DocumentReference.collection (reference : DocumentReference)
    (path : String) : CollectionReference :=
  ⟨reference.path ++ segments path⟩

structure Write where
  collection : CollectionReference
  data : Dictionary FieldValue

def CollectionReference.addDocument (reference : CollectionReference)
    (data : Dictionary FieldValue) : Write :=
  ⟨reference, data⟩

/-! ## Snapshots -/

structure QueryDocumentSnapshot where
  documentID : String
  data : Dictionary FieldValue
  isSegment : segments documentID = [documentID] := by decide

structure QuerySnapshot where
  documents : List QueryDocumentSnapshot
  nodup : (documents.map QueryDocumentSnapshot.documentID).Nodup := by decide

theorem QueryDocumentSnapshot.documentID_ne_empty (doc : QueryDocumentSnapshot) :
    doc.documentID ≠ "" := by
  intro h
  have hsegment := doc.isSegment
  rw [h] at hsegment
  exact absurd hsegment (by decide)

/-- Whatever IDs a collection holds, there is another one. -/
theorem exists_fresh_documentID (ids : List String) :
    ∃ documentID, segments documentID = [documentID] ∧ documentID ∉ ids := by
  let longest := (ids.map String.length).foldr max 0
  refine ⟨String.ofList (List.replicate (longest + 1) 'a'), ?_, fun hmem => ?_⟩
  · have hslash : '/' ∉ List.replicate (longest + 1) 'a' := by
      intro h
      exact absurd (List.eq_of_mem_replicate h) (by decide)
    have hnonempty : List.replicate (longest + 1) 'a' ≠ [] := by simp
    simp [segments, List.splitOn_eq_singleton hslash, hnonempty]
  · have hlength := (Library.foldr_max_le_iff.mp (le_refl longest)).2 _
      (List.mem_map_of_mem hmem)
    simp at hlength

structure FirestoreError where
  localizedDescription : String

end Chatik
