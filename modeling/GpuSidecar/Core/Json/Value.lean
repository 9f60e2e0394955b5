import Mathlib.Data.Rat.Init

/-!
# Decoded JSON

A decoded document as a dynamically typed reader sees it: members are read by name,
and a reader that expects another type, or a member that is not there, gets nothing.
Of members with the same name the last one counts. Numbers are exact.
-/

namespace GpuSidecar

inductive Json where
  | null
  | bool (b : Bool)
  | num (q : ℚ)
  | str (s : String)
  | arr (xs : List Json)
  | obj (members : List (String × Json))

namespace Json

/-- The members of an object, in the order of the text. -/
abbrev Object := List (String × Json)

/-- The last value in an object under a name. -/
def member? : Object → String → Option Json
  | [], _ => none
  | (k, v) :: m, name =>
    match member? m name with
    | some w => some w
    | none => if k = name then some v else none

/-- The value in an object under a name; a missing member reads as null. -/
def member (m : Object) (name : String) : Json := (member? m name).getD .null

def bool? : Json → Option Bool
  | .bool b => some b
  | _ => none

def num? : Json → Option ℚ
  | .num q => some q
  | _ => none

def str? : Json → Option String
  | .str s => some s
  | _ => none

def arr? : Json → Option (List Json)
  | .arr xs => some xs
  | _ => none

def obj? : Json → Option Object
  | .obj m => some m
  | _ => none

/-- An object with distinct names has under each name the value that it lists there. -/
theorem member_of_mem {m : Object} (hnodup : (m.map Prod.fst).Nodup) {name : String} {v : Json}
    (h : (name, v) ∈ m) : member m name = v := by
  have hmissing : ∀ {m : Object}, name ∉ m.map Prod.fst → member? m name = none := by
    intro m hname
    induction m with
    | nil => rfl
    | cons p m ih =>
      obtain ⟨hne, hname⟩ := List.ne_and_not_mem_of_not_mem_cons hname
      rw [member?, ih hname]
      exact if_neg hne.symm
  suffices hfound : member? m name = some v by rw [member, hfound]; rfl
  induction m with
  | nil => cases h
  | cons p m ih =>
    obtain ⟨hfresh, hnodup⟩ := List.nodup_cons.mp hnodup
    rcases List.mem_cons.mp h with rfl | h
    · rw [member?, hmissing hfresh]
      exact if_pos rfl
    · rw [member?, ih hnodup h]

end Json

end GpuSidecar
