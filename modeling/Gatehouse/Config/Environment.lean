import Gatehouse.Bytes.Basic

/-! The variables that the service is started with. A variable whose value is no text counts
as unset. -/
namespace Gatehouse

structure Environment where
  entries : List (String × String)
  deriving DecidableEq, Repr

namespace Environment

/-- Of variables of one name the first counts. -/
def ofBytes (entries : List (String × Bytes)) : Environment :=
  ⟨entries.filterMap fun (name, value) => value.toText?.map fun text => (name, text)⟩

def get? (env : Environment) (name : String) : Option String :=
  env.entries.lookup name

/-- Gives a variable a value unless it has one. -/
def setDefault (env : Environment) (name value : String) : Environment :=
  match env.get? name with
  | some _ => env
  | none => ⟨env.entries ++ [(name, value)]⟩

theorem get?_setDefault_of_isSome {env : Environment} {name : String}
    (h : (env.get? name).isSome) (other value : String) :
    (env.setDefault other value).get? name = env.get? name := by
  unfold setDefault
  split
  · rfl
  · obtain ⟨text, ht⟩ := Option.isSome_iff_exists.1 h
    simp only [get?, List.lookup_append] at *
    simp [ht]

end Environment

end Gatehouse
