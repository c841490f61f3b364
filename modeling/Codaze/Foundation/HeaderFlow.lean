import Codaze.Foundation.Headers

/-!
# What a pass over headers reads and writes

A pass fills a header map from another one. Of its source it reads the values of some names,
and of the map it fills it changes the values of some names. Passes compose.
-/
namespace Codaze.Foundation
namespace HeaderMap

variable {names reads reads' writes writes' : List String} {name : String}
  {headers source source' : HeaderMap}

/-- The same values in the same order, for each of the names. -/
def AgreeOn (names : List String) (headers headers' : HeaderMap) : Prop :=
  ∀ name ∈ names, headers.getAll name = headers'.getAll name

theorem AgreeOn.get (h : AgreeOn names source source') (hname : name ∈ names) :
    source.get name = source'.get name := by
  rw [get_eq_head?, get_eq_head?, h name hname]

theorem AgreeOn.remove (h : AgreeOn names source source') (name : String) :
    AgreeOn names (source.remove name) (source'.remove name) := by
  intro other hother
  by_cases hname : other = name
  · rw [hname, getAll_remove, getAll_remove]
  · rw [getAll_remove_of_ne hname, getAll_remove_of_ne hname, h other hother]

theorem AgreeOn.insert (h : AgreeOn names source source') (name : String) (value : HeaderValue) :
    AgreeOn names (source.insert name value) (source'.insert name value) := by
  intro other hother
  by_cases hname : other = name
  · rw [hname, getAll_insert_self, getAll_insert_self]
  · rw [getAll_insert_of_ne (Ne.symm hname), getAll_insert_of_ne (Ne.symm hname), h other hother]

/-- The source matters only in the values of `reads`, and only values of `writes` change. -/
structure Flow (reads writes : List String) (pass : HeaderMap → HeaderMap → HeaderMap) :
    Prop where
  reads_only : ∀ {source source'}, AgreeOn reads source source' →
    ∀ headers, pass source headers = pass source' headers
  writes_only : ∀ source headers, ∀ name ∉ writes,
    (pass source headers).getAll name = headers.getAll name

namespace Flow

variable {pass pass' : HeaderMap → HeaderMap → HeaderMap}

theorem mono (h : Flow reads writes pass) (hreads : reads ⊆ reads') (hwrites : writes ⊆ writes') :
    Flow reads' writes' pass where
  reads_only hagree := h.reads_only fun name hname => hagree name (hreads hname)
  writes_only source headers name hname := h.writes_only source headers name
    fun hmem => hname (hwrites hmem)

theorem idle : Flow [] [] fun _ headers => headers where
  reads_only _ _ := rfl
  writes_only _ _ _ _ := rfl

theorem andThen (h : Flow reads writes pass) (h' : Flow reads' writes' pass') :
    Flow (reads ++ reads') (writes ++ writes') fun source headers =>
      pass' source (pass source headers) where
  reads_only hagree headers := by
    have hfirst := h.reads_only (fun name hname => hagree name (List.mem_append_left _ hname))
      headers
    have hthen := h'.reads_only fun name hname => hagree name (List.mem_append_right _ hname)
    rw [hfirst, hthen]
  writes_only source headers name hname := by
    rw [List.mem_append, not_or] at hname
    rw [h'.writes_only _ _ _ hname.2, h.writes_only _ _ _ hname.1]

/-- A pass for each name, one after the other. -/
theorem foldl {step : HeaderMap → HeaderMap → String → HeaderMap}
    (h : ∀ name, Flow [name] [name] fun source headers => step source headers name)
    (names : List String) :
    Flow names names fun source headers => names.foldl (step source) headers := by
  induction names with
  | nil => exact idle
  | cons name names ih => exact (h name).andThen ih

/-- Whether a pass is taken may depend on what was filled in before. -/
theorem guarded (h : Flow reads writes pass) (skips : HeaderMap → Prop)
    [DecidablePred skips] :
    Flow reads writes fun source headers =>
      if skips headers then headers else pass source headers where
  reads_only hagree headers := by
    rw [h.reads_only hagree]
  writes_only source headers name hname := by
    split
    · rfl
    · exact h.writes_only source headers name hname

theorem copy (name : String) : Flow [name] [name] fun source headers =>
    List.append headers ((source.getAll name).map fun value => (name, value)) where
  reads_only hagree headers := by
    rw [hagree name List.mem_cons_self]
  writes_only source headers other hother := by
    have hnone : getAll ((source.getAll name).map fun value => (name, value)) other = [] := by
      have hne : name ≠ other := fun h => hother (h ▸ List.mem_cons_self)
      simp [getAll, List.filter_map, Function.comp_def, hne]
    rw [getAll_append, hnone]
    exact List.append_nil _

/-- The value of a name is replaced, if the source and what was filled in before give one. -/
theorem replace {value : HeaderMap → HeaderMap → Option HeaderValue} (name : String)
    (hvalue : ∀ {source source'}, AgreeOn reads source source' →
      ∀ headers, value source headers = value source' headers) :
    Flow reads [name] fun source headers => (value source headers).elim headers
      (headers.insert name) where
  reads_only hagree headers := by
    rw [hvalue hagree]
  writes_only source headers other hother := by
    have hne : name ≠ other := fun h => hother (h ▸ List.mem_cons_self)
    cases value source headers with
    | none => rfl
    | some replacement => exact getAll_insert_of_ne hne

/-- What comes out of a pass that starts from nothing. -/
theorem getAll_eq_nil (h : Flow reads writes pass) (source : HeaderMap) (hname : name ∉ writes) :
    (pass source []).getAll name = [] :=
  h.writes_only source [] name hname

end Flow

end HeaderMap

end Codaze.Foundation
