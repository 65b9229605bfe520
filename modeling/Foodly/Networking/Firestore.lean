import Foodly.Swift.Numerals

namespace Foodly

/-!
# Firestore documents, references and listener callbacks

The part of the Firestore client that the app programs against: documents with loosely
typed fields, references to documents and collections, queries on one field, and what a
listener is called back with.

* `FieldValue` — a value in a field, with the cast `as? String` and the text that interpolating it
  gives; a field may hold a number where a reader expects a text, and the readers differ in what
  they do about it;
* `Document`, `QuerySnapshot` — what a read returns: ids and data;
* `CollectionReference`, `DocumentReference` — references as the path segments that lead there, so
  that documents of different collections have different references;
* `Query` — `whereField(_:isEqualTo:)` on a collection;
* `Delivery` — what a snapshot listener is called back with, a snapshot or an error, never both and
  never neither.
-/

/-! ### Documents -/

/-- A value stored in a document field. -/
inductive FieldValue
  | null
  | boolean (value : Bool)
  | integer (value : Int)
  | double (value : ℚ)
  | string (value : String)
  | other (text : String)
  deriving DecidableEq, Repr

/-- `value as? String`. -/
def FieldValue.asString : FieldValue → Option String
  | .string value => some value
  | _ => none

/-- `"\(value)"`: a number is described by `NSNumber`, which shows no decimals of a whole one. -/
def FieldValue.text : FieldValue → String
  | .null => "<null>"
  | .boolean value => if value then "1" else "0"
  | .integer value => toString value
  | .double value => if value.den = 1 then toString value.num else Swift.description value
  | .string value => value
  | .other text => text

/-- `[String: Any]`, the data of a document. -/
abbrev Parameter := List (String × FieldValue)

/-- `data[key] as? String`. -/
def stringField (data : Parameter) (key : String) : Option String :=
  (data.lookup key).bind FieldValue.asString

/-- `QueryDocumentSnapshot`: the id and the data of one document. -/
structure Document where
  documentID : String
  data : Parameter
  deriving DecidableEq, Repr

/-- `QuerySnapshot.documents`. -/
abbrev QuerySnapshot := List Document

/-! ### References and queries -/

/-- A collection, named by the path segments that lead to it. -/
structure CollectionReference where
  path : List String
  deriving DecidableEq, Repr

/-- A document: its collection and its id there. -/
structure DocumentReference where
  parent : CollectionReference
  documentID : String
  deriving DecidableEq, Repr

/-- `whereField(field, isEqualTo: value)` on a collection. -/
structure Query where
  source : CollectionReference
  field : String
  isEqualTo : String
  deriving DecidableEq, Repr

/-- `Firestore.firestore().collection(name)`. -/
def Firestore.collection (name : String) : CollectionReference := ⟨[name]⟩

/-- `collection.document(id)`; `collection.document()` is the same with a generated id. -/
def CollectionReference.document (c : CollectionReference) (id : String) : DocumentReference :=
  ⟨c, id⟩

/-- `document.collection(name)`. -/
def DocumentReference.collection (d : DocumentReference) (name : String) : CollectionReference :=
  ⟨d.parent.path ++ [d.documentID, name]⟩

def CollectionReference.whereField (c : CollectionReference) (field value : String) : Query :=
  ⟨c, field, value⟩

/-! ### Callbacks -/

/-- An error of the client, known by its description. -/
abbrev FirestoreError := String

/-- What Firestore calls a snapshot listener with: a snapshot or an error. -/
inductive Delivery
  | snapshot (documents : QuerySnapshot)
  | error (error : FirestoreError)
  deriving DecidableEq, Repr

/-- The optional snapshot argument of the callback. -/
def Delivery.snapshot? : Delivery → Option QuerySnapshot
  | .snapshot documents => some documents
  | .error _ => none

/-- The optional error argument of the callback. -/
def Delivery.error? : Delivery → Option FirestoreError
  | .snapshot _ => none
  | .error e => some e

end Foodly
