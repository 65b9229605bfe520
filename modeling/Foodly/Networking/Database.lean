import Foodly.Lib.DocumentStore
import Foodly.Networking.Router

namespace Foodly

open DocumentStore

/-!
# The database

Firestore as a map from document references to data: `addDocument` writes under a generated
id, `setData` replaces one document, and a listener on a collection reads the documents
directly in it.

* `FirestoreCall.perform` — what a call does to the stored documents;
* `FirestoreCall.write` — the document that a call writes, for the writes that are answered later;
* `performRequest` — the call that an endpoint leads to, which is dropped when there is no
  reference to make it on;
* `documentsIn` — the documents directly in a collection, as a read returns them;
* `documentsIn_perm` — a read of a collection is any list of different ids with the documents that
  are stored under its references, up to order.

The id that Firestore makes up for a new document is an argument of the call, given by whoever
runs the database: that it is a new one is an assumption of the results that need it.
-/

/-- The stored documents. -/
abbrev Database := Store DocumentReference Parameter

/-- What a call does to the stored documents; `generated` is the id made up for a document that
    is added. -/
def FirestoreCall.perform (generated : String) (database : Database) : FirestoreCall → Database
  | .addSnapshotListener _ => database
  | .addDocument target data => database.insert (target.document generated) data
  | .setData target data => database.insert target data
  | .delete target => database.erase target

/-- The document that a call writes, with the data, once the write is accepted. -/
def FirestoreCall.write (generated : String) :
    FirestoreCall → Option (DocumentReference × Parameter)
  | .addDocument target data => some (target.document generated, data)
  | .setData target data => some (target, data)
  | .addSnapshotListener _ | .delete _ => none

/-- A call that writes a document does nothing else. -/
theorem FirestoreCall.perform_of_write {generated : String} {call : FirestoreCall}
    {write : DocumentReference × Parameter} (h : call.write generated = some write)
    (database : Database) : call.perform generated database = database.insert write.1 write.2 := by
  cases call <;> cases h <;> rfl

/-- The call of an endpoint, which is dropped when the endpoint has no reference for it. -/
def performRequest (generated : String) (database : Database) (request : FirestoreRequest) :
    Database :=
  match Router.request request with
  | some call => call.perform generated database
  | none => database

/-- The documents directly in a collection. -/
def documentsIn (c : CollectionReference) (database : Database) : QuerySnapshot :=
  (group DocumentReference.parent c database).map fun entry => ⟨entry.1.documentID, entry.2⟩

/-- **Reading a collection.**  A list of documents with different ids that has exactly the
    documents stored in the collection is what the collection reads as, up to order. -/
theorem documentsIn_perm {c : CollectionReference} {database : Database}
    {documents : QuerySnapshot} (hnodup : (documents.map (·.documentID)).Nodup)
    (hmem : ∀ id data, ⟨id, data⟩ ∈ documents ↔ database.lookup (c.document id) = some data) :
    (documentsIn c database).Perm documents := by
  have hgroup : (group DocumentReference.parent c database).Perm
      (documents.map fun d => (c.document d.documentID, d.data)) := by
    apply group_perm
    · rw [List.map_map]
      have hinjective : Function.Injective c.document := fun a b h =>
        congrArg DocumentReference.documentID h
      have hkeys := hnodup.map hinjective
      rwa [List.map_map] at hkeys
    · rintro ⟨parent, id⟩ data
      rw [List.mem_map]
      constructor
      · rintro ⟨d, hd, heq⟩
        obtain ⟨hkey, rfl⟩ := Prod.mk.inj heq
        rw [← hkey]
        exact ⟨rfl, (hmem d.documentID d.data).mp hd⟩
      · rintro ⟨rfl, hlookup⟩
        exact ⟨⟨id, data⟩, (hmem id data).mpr hlookup, rfl⟩
  have hmap := hgroup.map fun entry => (⟨entry.1.documentID, entry.2⟩ : Document)
  rw [List.map_map] at hmap
  exact hmap.trans (List.Perm.of_eq (List.map_id documents))

/-- A collection reads as the documents stored under its references. -/
theorem mem_documentsIn {c : CollectionReference} {database : Database} {id : String}
    {data : Parameter} :
    ⟨id, data⟩ ∈ documentsIn c database ↔ database.lookup (c.document id) = some data := by
  unfold documentsIn
  rw [List.mem_map]
  constructor
  · rintro ⟨⟨⟨parent, id'⟩, data'⟩, hmem, heq⟩
    obtain ⟨hparent, hlookup⟩ := mem_group.mp hmem
    obtain rfl : parent = c := hparent
    obtain ⟨rfl, rfl⟩ := Document.mk.inj heq
    exact hlookup
  · intro hlookup
    exact ⟨(c.document id, data), mem_group.mpr ⟨rfl, hlookup⟩, rfl⟩

/-- The documents of a collection have different ids. -/
theorem nodup_documentsIn (c : CollectionReference) (database : Database) :
    ((documentsIn c database).map (·.documentID)).Nodup := by
  have hkeys := nodup_keys_group DocumentReference.parent c database
  -- Within one collection the id alone tells the references apart.
  have hreferences : (group DocumentReference.parent c database).map Prod.fst
      = ((documentsIn c database).map (·.documentID)).map c.document := by
    unfold documentsIn
    rw [List.map_map, List.map_map]
    apply List.map_congr_left
    rintro ⟨⟨parent, id⟩, data⟩ hmem
    obtain rfl : parent = c := (mem_group.mp hmem).1
    rfl
  rw [hreferences] at hkeys
  exact hkeys.of_map

/-- Databases with the same documents in a collection read the same there, up to order. -/
theorem documentsIn_perm_of_lookup {c : CollectionReference} {database database' : Database}
    (h : ∀ id, database.lookup (c.document id) = database'.lookup (c.document id)) :
    (documentsIn c database).Perm (documentsIn c database') := by
  apply documentsIn_perm (nodup_documentsIn c database')
  intro id data
  rw [mem_documentsIn, h]

end Foodly
