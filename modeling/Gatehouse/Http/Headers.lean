import Gatehouse.Bytes.Basic
import Gatehouse.Text.Ascii
import Gatehouse.Text.Blank

/-! Header fields of requests and responses: names in lower case, values of any bytes, fields
of one name in the order in which they were added. -/
namespace Gatehouse.Http

structure Headers where
  fields : List (String × Bytes)
  deriving DecidableEq, Repr

namespace Headers

def empty : Headers := ⟨[]⟩

/-- Names differ only up to the case of ASCII letters. -/
def ofList (fields : List (String × Bytes)) : Headers :=
  ⟨fields.map fun (name, value) => (String.ofList (Text.lower name.toList), value)⟩

/-- The values of a name, in order. -/
def values (headers : Headers) (name : String) : List Bytes :=
  (headers.fields.filter fun field => field.1 == name).map fun field => field.2

/-- The first value of a name. -/
def first? (headers : Headers) (name : String) : Option Bytes :=
  (headers.values name).head?

/-- The first value of a name without its outer blanks, if it can be read and is not blank. -/
def trimmed? (headers : Headers) (name : String) : Option (List Char) :=
  match (headers.first? name).bind Text.readable? with
  | none => none
  | some value =>
    let text := Text.trim value
    if text.isEmpty then none else some text

def contains (headers : Headers) (name : String) : Bool :=
  headers.fields.any fun field => field.1 == name

def add (headers : Headers) (name : String) (value : Bytes) : Headers :=
  ⟨headers.fields ++ [(name, value)]⟩

def erase (headers : Headers) (name : String) : Headers :=
  ⟨headers.fields.filter fun field => field.1 != name⟩

/-- The one value of a name from now on. -/
def set (headers : Headers) (name : String) (value : Bytes) : Headers :=
  (headers.erase name).add name value

theorem values_set_self (headers : Headers) (name : String) (value : Bytes) :
    (headers.set name value).values name = [value] := by
  simp [set, add, erase, values]

theorem values_set_of_ne (headers : Headers) {name other : String} (h : other ≠ name)
    (value : Bytes) : (headers.set name value).values other = headers.values other := by
  have ne : ¬ name = other := fun e => h e.symm
  simp only [set, add, erase, values, List.filter_append, List.filter_filter, List.map_append]
  simp only [List.filter_cons, List.filter_nil, beq_iff_eq, ne, if_false, List.map_nil,
    List.append_nil]
  congr 1
  apply List.filter_congr
  intro field _
  by_cases e : field.1 = other
  · simp [e, h]
  · simp [e]

end Headers

end Gatehouse.Http
