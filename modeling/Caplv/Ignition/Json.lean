import Caplv.Text

namespace Caplv.Ignition

-- What encoding/json decodes into an `any`.
inductive Json where
  | null
  | bool (value : Bool)
  | number (value : Rat)
  | string (value : String)
  | array (elements : List Json)
  | object (fields : List (String × Json))

-- A map[string]any.
abbrev Object := List (String × Json)

namespace Object

variable (object : Object) (key other : String) (value : Json)

def get (object : Object) (key : String) : Option Json := object.lookup key

def set (object : Object) (key : String) (value : Json) : Object :=
  (key, value) :: object.filter fun field => field.1 ≠ key

theorem get_set_self : (set object key value).get key = some value := by
  rw [get, set, List.lookup_cons_self]

theorem get_filter_ne (hother : other ≠ key) :
    get (object.filter fun field => field.1 ≠ key) other = object.get other := by
  induction object with
  | nil => rfl
  | cons field rest ih =>
    obtain ⟨head, value⟩ := field
    simp only [get] at ih ⊢
    by_cases hhead : head = key
    · rw [List.filter_cons_of_neg (by simpa using hhead), ih, List.lookup_cons,
        beq_eq_false_iff_ne.mpr (hhead ▸ hother)]
    · rw [List.filter_cons_of_pos (by simpa using hhead), List.lookup_cons, List.lookup_cons, ih]

theorem get_set_ne (hother : other ≠ key) : (set object key value).get other = object.get other := by
  rw [← get_filter_ne object key other hother, get, get, set, List.lookup_cons,
    beq_eq_false_iff_ne.mpr hother]

theorem set_set (value' : Json) : (set object key value).set key value' = object.set key value' := by
  simp [set, List.filter_filter]

end Object

-- The type assertions v.(map[string]any), v.([]any) and v.(string).
def asObject : Option Json → Option Object
  | some (.object fields) => some fields
  | _ => none

def asArray : Option Json → Option (List Json)
  | some (.array elements) => some elements
  | _ => none

def asString : Option Json → Option String
  | some (.string value) => some value
  | _ => none

end Caplv.Ignition
