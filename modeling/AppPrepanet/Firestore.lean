import AppPrepanet.Loop
import Mathlib.Data.List.Basic
import Mathlib.Tactic.Common

namespace AppPrepanet.Firestore

-- A point in time. The app only stores dates, reads them back and hands them on.
abbrev Date := Int

-- `dateValue()` is the field: a stored `Date` comes back as the `Timestamp` of that date.
structure Timestamp where
  dateValue : Date
deriving DecidableEq

-- Values that may stand in an array. `other` is everything no cast of the app accepts.
inductive Scalar where
  | string (s : String)
  | timestamp (t : Timestamp)
  | other (code : ℕ)
deriving DecidableEq

-- Arrays do not nest.
inductive FieldValue where
  | scalar (v : Scalar)
  | array (vs : List Scalar)
deriving DecidableEq

namespace FieldValue

@[match_pattern] abbrev string (s : String) : FieldValue := .scalar (.string s)

@[match_pattern] abbrev timestamp (t : Timestamp) : FieldValue := .scalar (.timestamp t)

end FieldValue

def Scalar.asString : Scalar → Option String
  | .string s => some s
  | _ => none

def Scalar.asTimestamp : Scalar → Option Timestamp
  | .timestamp t => some t
  | _ => none

-- What `addDocument(data:)` is given: field names and values.
abbrev Fields := List (String × FieldValue)

structure Document where
  documentID : String
  data : Fields
deriving DecidableEq

-- The parameters of a query's callback: an error, or the documents of the snapshot.
abbrev QueryResult := Except String (List Document)

namespace Document

variable (document : Document)

def get (field : String) : Option FieldValue := document.data.lookup field

-- `get(field) as! String`; `none` is the trap of the forced cast.
def string (field : String) : Option String :=
  match document.get field with
  | some (.scalar v) => v.asString
  | _ => none

-- `get(field) as! Timestamp`
def timestamp (field : String) : Option Timestamp :=
  match document.get field with
  | some (.scalar v) => v.asTimestamp
  | _ => none

-- `get(field) as! [String]`
def strings (field : String) : Option (List String) :=
  match document.get field with
  | some (.array vs) => vs.mapM Scalar.asString
  | _ => none

-- `get(field) as! [Timestamp]`
def timestamps (field : String) : Option (List Timestamp) :=
  match document.get field with
  | some (.array vs) => vs.mapM Scalar.asTimestamp
  | _ => none

-- `data()[field] as? String ?? ""`
def stringOrEmpty (field : String) : String := (document.string field).getD ""

-- The condition of `whereField(field, isEqualTo: value)`.
def fieldIs (field value : String) : Bool := document.get field = some (.string value)

-- An update that overwrites one field.
def setField (field : String) (value : FieldValue) : Document :=
  { document with data := (field, value) :: document.data.filter (·.1 ≠ field) }

@[simp] theorem get_setField_same (field : String) (value : FieldValue) :
    (document.setField field value).get field = some value := by
  simp [get, setField]

theorem lookup_filter_ne {field other : String} (h : other ≠ field) (data : Fields) :
    (data.filter (·.1 ≠ field)).lookup other = data.lookup other := by
  induction data with
  | nil => rfl
  | cons entry rest ih =>
      obtain ⟨name, stored⟩ := entry
      by_cases hn : name = field
      · have hne : (other == name) = false := by simpa [hn] using h
        rw [List.filter_cons_of_neg (by simpa using hn), ih, List.lookup_cons, hne]
      · rw [List.filter_cons_of_pos (by simpa using hn), List.lookup_cons, ih, List.lookup_cons]

theorem get_setField_other {field other : String} (value : FieldValue) (h : other ≠ field) :
    (document.setField field value).get other = document.get other := by
  have hne : (other == field) = false := by simpa using h
  simp only [get, setField, List.lookup_cons, hne, lookup_filter_ne h]

theorem fieldIs_iff {field value : String} :
    document.fieldIs field value = true ↔ document.string field = some value := by
  unfold fieldIs string
  rcases document.get field with _ | v | vs
  · simp
  · cases v <;> simp [Scalar.asString, FieldValue.string]
  · simp

@[simp] theorem string_setField_same (field text : String) :
    (document.setField field (.string text)).string field = some text := by
  simp [string, Scalar.asString]

theorem string_setField_other {field other : String} (value : FieldValue) (h : other ≠ field) :
    (document.setField field value).string other = document.string other := by
  unfold string
  rw [get_setField_other document value h]

theorem timestamp_setField_other {field other : String} (value : FieldValue) (h : other ≠ field) :
    (document.setField field value).timestamp other = document.timestamp other := by
  unfold timestamp
  rw [get_setField_other document value h]

end Document

-- Every document of the answer can be read.
def Readable {α : Type*} (read : Document → Option α) : QueryResult → Prop
  | .ok documents => ∀ document ∈ documents, (read document).isSome = true
  | .error _ => True

theorem readable_ok_iff {α : Type*} {read : Document → Option α} {documents : List Document} :
    Readable read (.ok documents) ↔ ∃ values, documents.mapM read = some values := by
  constructor
  · intro h
    exact Loop.exists_mapM_eq_some fun document hd => Option.isSome_iff_exists.mp (h document hd)
  · rintro ⟨values, hm⟩ document hd
    obtain ⟨value, _, hread⟩ := Loop.exists_mem_of_mapM hm hd
    exact Option.isSome_iff_exists.mpr ⟨value, hread⟩

-- A callback that survives errors and reads every document survives what can be read.
theorem isSome_iff_readable {α σ : Type*} {read : Document → Option α}
    {callback : QueryResult → Option σ} {next : List α → σ}
    (herror : ∀ err, (callback (.error err)).isSome = true)
    (hok : ∀ documents final, callback (.ok documents) = some final ↔
      ∃ values, documents.mapM read = some values ∧ final = next values)
    (result : QueryResult) : (callback result).isSome = true ↔ Readable read result := by
  cases result with
  | error err => simp [herror, Readable]
  | ok documents =>
      rw [readable_ok_iff, Option.isSome_iff_exists]
      constructor
      · rintro ⟨final, hfinal⟩
        obtain ⟨values, hm, _⟩ := (hok documents final).mp hfinal
        exact ⟨values, hm⟩
      · rintro ⟨values, hm⟩
        exact ⟨_, (hok documents _).mpr ⟨values, hm, rfl⟩⟩

end AppPrepanet.Firestore
