import WebviewHost.Http.Message

/-!
# End-to-end headers

Which headers belong to one connection, said of their names, and that passing a message on keeps
exactly the others: all values of a name, in their order, or none.
-/

set_option autoImplicit false

namespace WebviewHost.Http

open WebviewHost.Files (splitAt)
open WebviewHost.Text (trimBlanks)

/-! ## Values by name -/

namespace Headers

theorem has_eq_true_iff {headers : Headers} {name : String} :
    headers.has name = true ↔ headers.values name ≠ [] := by
  simp [has, values, List.any_eq_true]

/-- A choice of headers by their names keeps all values of a name or none. -/
theorem values_filter (headers : Headers) (kept : String → Bool) (name : String) :
    Headers.values (headers.filter fun header => kept header.name) name =
      if kept name then headers.values name else [] := by
  induction headers with
  | nil => simp [values]
  | cons header rest ih =>
      unfold values at ih ⊢
      by_cases same : header.name = name
      · subst same
        cases keeps : kept header.name with
        | true => simpa [keeps] using ih
        | false => simpa [keeps] using ih
      · cases keeps : kept header.name with
        | true => simpa [keeps, same] using ih
        | false => simpa [keeps, same] using ih

theorem values_without (headers : Headers) (dropped name : String) :
    (headers.without dropped).values name = if name = dropped then [] else headers.values name := by
  have kept := values_filter headers (fun other => decide (other ≠ dropped)) name
  simp only [decide_eq_true_eq, ite_not] at kept
  exact kept

theorem values_withDefault (headers : Headers) (header : Header) (name : String) :
    (headers.withDefault header).values name =
      if name = header.name ∧ headers.values name = [] then [header.value]
      else headers.values name := by
  unfold withDefault
  by_cases there : headers.has header.name = true
  · have given := has_eq_true_iff.mp there
    rw [if_pos there, if_neg]
    rintro ⟨rfl, absent⟩
    exact given absent
  · have absent : headers.values header.name = [] := by
      cases given : headers.values header.name with
      | nil => rfl
      | cons first others => exact absurd (has_eq_true_iff.mpr (by simp [given])) there
    rw [if_neg there]
    by_cases same : name = header.name
    · subst same
      rw [if_pos ⟨rfl, absent⟩]
      have alone : Headers.values (headers ++ [header]) header.name =
          headers.values header.name ++ [header.value] := by simp [values]
      rw [alone, absent, List.nil_append]
    · rw [if_neg fun both => same both.1]
      simp [values, Ne.symm same]

end Headers

/-! ## Headers of one connection -/

/-- One of the elements of a value, between its commas and without the blanks around it, is a name
in whatever case. A value that is not visible text has no elements. -/
def Lists (value : List UInt8) (name : String) : Prop :=
  ∃ text, visibleText? value = some text ∧
    ∃ element ∈ splitAt ',' text, headerName? (trimBlanks element) = some name

/-- A name whose headers are for whoever gets the message in the end: no name of a connection's own
header, and in no list of a `connection` header. -/
structure EndToEnd (headers : Headers) (name : String) : Prop where
  notHopByHop : name ∉ hopByHop
  unlisted : ∀ value ∈ headers.values "connection", ¬Lists value name

theorem mem_nominated_iff {headers : Headers} {name : String} :
    name ∈ nominated headers ↔ ∃ value ∈ headers.values "connection", Lists value name := by
  unfold nominated
  rw [List.mem_flatMap]
  refine exists_congr fun value => and_congr_right fun _ => ?_
  unfold nominatedBy Lists
  cases visible : visibleText? value with
  | none => simp
  | some text => simp [List.mem_filterMap]

theorem endToEnd_iff {headers : Headers} {name : String} :
    EndToEnd headers name ↔ name ∉ hopByHop ++ nominated headers := by
  rw [List.mem_append, not_or, mem_nominated_iff]
  constructor
  · rintro ⟨own, unlisted⟩
    exact ⟨own, fun ⟨value, member, listed⟩ => unlisted value member listed⟩
  · rintro ⟨own, unlisted⟩
    exact ⟨own, fun value member listed => unlisted ⟨value, member, listed⟩⟩

instance (headers : Headers) (name : String) : Decidable (EndToEnd headers name) :=
  decidable_of_iff _ endToEnd_iff.symm

private theorem foldl_without (names : List String) (headers : Headers) :
    names.foldl Headers.without headers =
      headers.filter fun header => decide (header.name ∉ names) := by
  induction names generalizing headers with
  | nil => exact (List.filter_eq_self.mpr fun _ _ => by simp).symm
  | cons name rest ih =>
      rw [List.foldl_cons, ih, Headers.without, List.filter_filter]
      refine List.filter_congr fun header _ => ?_
      simp [Bool.and_comm]

theorem endToEnd_eq_filter (headers : Headers) :
    endToEnd headers =
      headers.filter fun header => decide (header.name ∉ hopByHop ++ nominated headers) :=
  foldl_without _ headers

/-- All values of a name whose headers are passed on, or none. -/
def endToEndValues (headers : Headers) (name : String) : List (List UInt8) :=
  if EndToEnd headers name then headers.values name else []

theorem values_endToEnd (headers : Headers) (name : String) :
    (endToEnd headers).values name = endToEndValues headers name := by
  have kept := Headers.values_filter headers
    (fun other => decide (other ∉ hopByHop ++ nominated headers)) name
  unfold endToEndValues
  rw [endToEnd_eq_filter, kept]
  simp only [decide_eq_true_eq, endToEnd_iff]

end WebviewHost.Http
