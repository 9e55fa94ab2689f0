import SecurityDashboards.Lib.WhatwgLocation
import SecurityDashboards.Proofs.UrlEncodingProofs

/-!
# The parameters of a location

`URLSearchParams`, read from the query of a URL and written back to it.
-/

namespace Whatwg

open UrlEncoding

abbrev SearchParams := List (String × String)

namespace SearchParams

variable {params : SearchParams} {name value : String}

def get (params : SearchParams) (name : String) : Option String := params.lookup name

/-- The first parameter of the name gets the value, and further ones are removed. -/
def set : SearchParams → String → String → SearchParams
  | [], name, value => [(name, value)]
  | param :: params, name, value =>
    if param.1 = name then (name, value) :: params.filter (·.1 ≠ name)
    else param :: set params name value

@[simp] theorem get_set_self : (set params name value).get name = some value := by
  induction params with
  | nil => simp [set, get]
  | cons param params ih =>
    rw [set]
    split
    · simp [get]
    · rename_i hne
      have hbeq : (name == param.1) = false := by simpa using Ne.symm hne
      rw [get] at ih ⊢
      rw [List.lookup_cons, hbeq]
      exact ih

/-- The other parameters stay as they are. -/
@[simp] theorem filter_set : (set params name value).filter (·.1 ≠ name) =
    params.filter (·.1 ≠ name) := by
  induction params with
  | nil => simp [set]
  | cons param params ih =>
    rw [set]
    split
    · rename_i heq
      simp [heq]
    · rename_i hne
      rw [List.filter_cons_of_pos (by simpa using hne), List.filter_cons_of_pos (by simpa using hne), ih]

end SearchParams

/-- A serialized form is a query already. -/
theorem inQuerySet_of_formSerialize {params : SearchParams} :
    ∀ c ∈ formSerialize params, inQuerySet c = false := by
  intro c hc
  by_contra hset
  have hset : inQuerySet c = true := by simpa using hset
  have hne : ∀ d : Char, inQuerySet d = false → c ≠ d := by
    rintro d hd rfl
    rw [hset] at hd
    cases hd
  have hcoded : isFormSafe c = false := by
    by_contra hsafe
    have hsafe : isFormSafe c = true := by simpa using hsafe
    have hlt : c.toNat < 128 := by
      by_contra hlarge
      simp only [isFormSafe, Bool.or_eq_true, decide_eq_true_eq] at hsafe
      rcases hsafe with (((hsafe | rfl) | rfl) | rfl) | rfl
      · exact hlarge (isAlphanum_lt hsafe)
      all_goals exact hlarge (by decide)
    have hall : ∀ n < 128, isFormSafe (Char.ofNat n) = true → inQuerySet (Char.ofNat n) = false := by
      decide
    have hplain := hall c.toNat hlt
    rw [Char.ofNat_toNat, hset] at hplain
    cases hplain hsafe
  exact not_mem_formSerialize (hne '%' (by decide)) (hne '+' (by decide)) (hne '=' (by decide))
    (hne '&' (by decide)) hcoded hc

namespace Location

/-- `url.searchParams` -/
def searchParams (location : Location) : SearchParams := (location.query.map formParse).getD []

/-- The URL after a change of its `searchParams`. -/
def withSearchParams (location : Location) (params : SearchParams) : Location :=
  { location with
    query := if params = [] then none else some (formSerialize params)
    isQuery := by
      intro text htext
      split_ifs at htext
      · cases htext
      · cases htext
        exact inQuerySet_of_formSerialize }

theorem searchParams_withSearchParams (location : Location) (params : SearchParams) :
    (location.withSearchParams params).searchParams = params := by
  cases params with
  | nil => rfl
  | cons param params => exact formParse_formSerialize (param :: params)

end Location

end Whatwg
