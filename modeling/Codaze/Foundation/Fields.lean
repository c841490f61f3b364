import Codaze.Foundation.Json
import Mathlib.Data.List.Nodup
import Mathlib.Data.List.TakeWhile
import Mathlib.Tactic.Cases

/-!
# Mutable JSON objects

The operations of `serde_json::Map` on the fields of an object, and the equality of
documents. The fields keep the order of insertion, up to the removals.
-/
namespace Codaze.Foundation

abbrev Fields := List (String × Json)

theorem Json.eq_object_of_asObject? {json : Json} {fields : Fields}
    (h : json.asObject? = some fields) : json = .object fields := by
  cases json with
  | object => rw [Option.some.inj h]
  | _ => cases h

namespace Fields

variable {fields : Fields} {key key' : String} {value : Json}

/-- `Map::get`. -/
def get? (fields : Fields) (key : String) : Option Json := (Json.object fields).get? key

/-- `Map::insert`: in the place of the key, or at the end. -/
def insert (fields : Fields) (key : String) (value : Json) : Fields :=
  if fields.any (·.1 == key) then
    fields.map fun field => if field.1 = key then (key, value) else field
  else List.append fields [(key, value)]

/-- `Map::remove`, which is `swap_remove`: the last field fills the gap. No map repeats a key; the
fields of a list that does move together. -/
def remove (fields : Fields) (key : String) : Fields :=
  let front := fields.takeWhile fun field => field.1 ≠ key
  let back := (fields.dropWhile fun field => field.1 ≠ key).filter fun field => field.1 ≠ key
  match back.getLast? with
  | none => front
  | some last => front ++ (back.filter fun field => field.1 = last.1) ++
      back.filter fun field => field.1 ≠ last.1

/-- The other fields, in order. -/
def without (fields : Fields) (key : String) : Fields := fields.filter fun field => field.1 ≠ key

/-- The values of a key, in order; a map has at most one. -/
def valuesAt (fields : Fields) (key : String) : List Json :=
  (fields.filter fun field => field.1 = key).map (·.2)

/-- `Map::entry(key).or_insert(value)`. -/
def orInsert (fields : Fields) (key : String) (value : Json) : Fields :=
  if fields.any (·.1 == key) then fields else List.append fields [(key, value)]

/-- `if let Some(value) = map.get_mut(key) { ... }`. -/
def modify (fields : Fields) (key : String) (f : Json → Json) : Fields :=
  match fields.get? key with
  | some value => fields.insert key (f value)
  | none => fields

/-- Acts on the values of one key. -/
def onKey (key : String) (f : Json → Json) (field : String × Json) : String × Json :=
  if field.1 = key then (field.1, f field.2) else field

@[simp] theorem onKey_fst (f : Json → Json) (field : String × Json) :
    (onKey key f field).1 = field.1 := by
  unfold onKey
  split <;> rfl

theorem any_map_onKey (f : Json → Json) :
    (fields.map (onKey key f)).any (·.1 == key') = fields.any (·.1 == key') := by
  rw [List.any_map]
  congr
  funext field
  simp

theorem lookup_map_onKey_of_ne (f : Json → Json) (hkey : key' ≠ key) :
    (fields.map (onKey key f)).lookup key' = fields.lookup key' := by
  induction fields with
  | nil => rfl
  | cons field fields ih =>
    obtain ⟨name, value⟩ := field
    simp only [List.map_cons, onKey]
    split
    next hname =>
      have hne : (key' == name) = false := by simpa [hname] using hkey
      simp only [List.lookup_cons, hne]
      exact ih
    next => simp only [List.lookup_cons, ih]

theorem get?_map_onKey_of_ne (f : Json → Json) (hkey : key' ≠ key) :
    get? (fields.map (onKey key f)) key' = fields.get? key' := by
  simp only [get?, Json.get?, ← List.map_reverse]
  exact lookup_map_onKey_of_ne f hkey

theorem lookup_map_onKey (f : Json → Json) :
    (fields.map (onKey key f)).lookup key = (fields.lookup key).map f := by
  induction fields with
  | nil => rfl
  | cons field fields ih =>
    obtain ⟨name, value⟩ := field
    simp only [List.map_cons, onKey]
    split
    next hname => simp [hname]
    next hname =>
      have hne : (key == name) = false := by simpa using fun h => hname (Eq.symm h)
      simp only [List.lookup_cons, hne]
      exact ih

theorem get?_map_onKey (f : Json → Json) :
    get? (fields.map (onKey key f)) key = (fields.get? key).map f := by
  simp only [get?, Json.get?, ← List.map_reverse]
  exact lookup_map_onKey f

/-- An insertion of another key does not see the values of this one. -/
theorem insert_map_onKey_of_ne (f : Json → Json) (hkey : key' ≠ key) :
    insert (fields.map (onKey key f)) key' value =
      (fields.insert key' value).map (onKey key f) := by
  have hvalue : onKey key f (key', value) = (key', value) := by simp [onKey, hkey]
  simp only [insert, any_map_onKey]
  split
  · simp only [List.map_map]
    refine List.map_congr_left fun field _ => ?_
    by_cases hfield : field.1 = key'
    · simp [hfield, hvalue]
    · simp [hfield]
  · change List.append (fields.map (onKey key f)) [(key', value)] =
      List.map (onKey key f) (List.append fields [(key', value)])
    simp [hvalue]

/-- An insertion of a key sees nothing of its values. -/
theorem insert_map_onKey (f : Json → Json) :
    insert (fields.map (onKey key f)) key (f value) =
      (fields.insert key value).map (onKey key f) := by
  simp only [insert, any_map_onKey]
  split
  · simp only [List.map_map]
    refine List.map_congr_left fun field _ => ?_
    by_cases hfield : field.1 = key
    · simp [hfield, onKey]
    · simp [hfield, onKey]
  · change List.append (fields.map (onKey key f)) [(key, f value)] =
      List.map (onKey key f) (List.append fields [(key, value)])
    simp [onKey]

theorem orInsert_map_onKey_of_ne (f : Json → Json) (hkey : key' ≠ key) :
    orInsert (fields.map (onKey key f)) key' value =
      (fields.orInsert key' value).map (onKey key f) := by
  have hvalue : onKey key f (key', value) = (key', value) := by simp [onKey, hkey]
  simp only [orInsert, any_map_onKey]
  split
  · rfl
  · change List.append (fields.map (onKey key f)) [(key', value)] =
      List.map (onKey key f) (List.append fields [(key', value)])
    simp [hvalue]

theorem remove_map_onKey (f : Json → Json) :
    remove (fields.map (onKey key f)) key' = (fields.remove key').map (onKey key f) := by
  have hother (name : String) : ((fun field : String × Json => decide (field.1 ≠ name)) ∘
      onKey key f) = fun field => decide (field.1 ≠ name) := by
    funext field
    simp
  have hsame (name : String) : ((fun field : String × Json => decide (field.1 = name)) ∘
      onKey key f) = fun field => decide (field.1 = name) := by
    funext field
    simp
  simp only [remove, List.takeWhile_map, List.dropWhile_map, List.filter_map, hother,
    List.getLast?_map]
  cases ((fields.dropWhile fun field => decide (field.1 ≠ key')).filter fun field =>
      decide (field.1 ≠ key')).getLast? with
  | none => rfl
  | some last => simp only [Option.map_some, onKey_fst, hsame, List.map_append]

theorem modify_map_onKey_of_ne {g : Json → Json} (f : Json → Json) (hkey : key' ≠ key) :
    modify (fields.map (onKey key f)) key' g = (fields.modify key' g).map (onKey key f) := by
  simp only [modify, get?_map_onKey_of_ne f hkey]
  cases fields.get? key' with
  | none => rfl
  | some value => exact insert_map_onKey_of_ne f hkey

theorem isSome_get? (fields : Fields) (key : String) :
    (fields.get? key).isSome = fields.any (·.1 == key) := by
  have hlookup (fields : Fields) : (fields.lookup key).isSome = fields.any (·.1 == key) := by
    induction fields with
    | nil => rfl
    | cons field fields ih =>
      obtain ⟨name, value⟩ := field
      by_cases hname : name = key
      · simp [hname]
      · have hne : (key == name) = false := by simpa using fun h => hname (Eq.symm h)
        simp [List.lookup_cons, hne, hname, ih]
  rw [← List.any_reverse]
  exact hlookup fields.reverse

/-- An insertion replaces the values of its key or adds one. -/
theorem insert_eq (fields : Fields) (key : String) (value : Json) :
    fields.insert key value =
      if fields.any (·.1 == key) then fields.map (onKey key fun _ => value)
      else List.append fields [(key, value)] := by
  unfold insert
  split
  · refine List.map_congr_left fun field _ => ?_
    unfold onKey
    split
    next hfield => rw [hfield]
    next => rfl
  · rfl

theorem get?_append_singleton :
    get? (List.append fields [(key, value)]) key' =
      if key' = key then some value else fields.get? key' := by
  have hreverse : (List.append fields [(key, value)]).reverse = (key, value) :: fields.reverse :=
    List.reverse_append
  simp only [get?, Json.get?, hreverse, List.lookup_cons]
  by_cases hkey : key' = key
  · simp [hkey]
  · simp [hkey, beq_false_of_ne hkey]

@[simp] theorem get?_insert_self : (fields.insert key value).get? key = some value := by
  rw [insert_eq]
  split
  next hany =>
    obtain ⟨old, hold⟩ := Option.isSome_iff_exists.mp ((isSome_get? fields key).trans hany)
    rw [get?_map_onKey, hold]
    rfl
  next => rw [get?_append_singleton, if_pos rfl]

theorem get?_insert_of_ne (hkey : key' ≠ key) :
    (fields.insert key value).get? key' = fields.get? key' := by
  rw [insert_eq]
  split
  · exact get?_map_onKey_of_ne _ hkey
  · rw [get?_append_singleton, if_neg hkey]

/-- The last value of a key is the one that is read. -/
theorem get?_eq_getLast? (fields : Fields) (key : String) :
    fields.get? key = (fields.valuesAt key).getLast? := by
  rw [get?, Json.get?, lookup_eq_head?_filter, List.filter_reverse, List.head?_reverse, valuesAt,
    List.getLast?_map]

theorem valuesAt_append (fields fields' : Fields) (key : String) :
    valuesAt (fields ++ fields') key = fields.valuesAt key ++ valuesAt fields' key := by
  simp [valuesAt]

theorem valuesAt_eq_nil : fields.valuesAt key = [] ↔ ∀ field ∈ fields, field.1 ≠ key := by
  simp [valuesAt]

theorem valuesAt_filter_ne (hkey : key' ≠ key) :
    valuesAt (fields.filter fun field => field.1 ≠ key) key' = fields.valuesAt key' := by
  simp only [valuesAt, List.filter_filter]
  congr 1
  refine List.filter_congr fun field _ => ?_
  by_cases hfield : field.1 = key' <;> simp [hfield, hkey]

theorem valuesAt_filter_eq_self :
    valuesAt (fields.filter fun field => field.1 = key) key = fields.valuesAt key := by
  simp [valuesAt, List.filter_filter]

/-- A removal takes the values of its key and no others. -/
theorem valuesAt_remove_of_ne (hkey : key' ≠ key) :
    (fields.remove key).valuesAt key' = fields.valuesAt key' := by
  have hsplit : fields.valuesAt key' =
      valuesAt (fields.takeWhile fun field => field.1 ≠ key) key' ++
        valuesAt ((fields.dropWhile fun field => field.1 ≠ key).filter fun field =>
          field.1 ≠ key) key' := by
    rw [valuesAt_filter_ne hkey, ← valuesAt_append, List.takeWhile_append_dropWhile]
  rw [hsplit]
  simp only [remove]
  generalize (fields.dropWhile fun field => decide (field.1 ≠ key)).filter
    (fun field => decide (field.1 ≠ key)) = back
  cases hlast : back.getLast? with
  | none =>
    rw [List.getLast?_eq_none_iff.mp hlast]
    simp [valuesAt]
  | some last =>
    rw [valuesAt_append, valuesAt_append, List.append_assoc]
    congr 1
    by_cases hname : key' = last.1
    · have hnone : valuesAt (back.filter fun field => field.1 ≠ last.1) last.1 = [] := by
        rw [valuesAt_eq_nil]
        exact fun field hfield => by simpa using (List.mem_filter.mp hfield).2
      rw [hname, hnone, List.append_nil, valuesAt_filter_eq_self]
    · have hnone : valuesAt (back.filter fun field => field.1 = last.1) key' = [] := by
        rw [valuesAt_eq_nil]
        intro field hfield
        have hsame : field.1 = last.1 := by simpa using (List.mem_filter.mp hfield).2
        exact fun h => hname (h.symm.trans hsame)
      rw [hnone, List.nil_append, valuesAt_filter_ne hname]

theorem valuesAt_remove_self : (fields.remove key).valuesAt key = [] := by
  have hfront : ∀ field ∈ fields.takeWhile fun field => field.1 ≠ key, field.1 ≠ key :=
    fun field hfield => by simpa using List.mem_takeWhile_imp hfield
  have hback : ∀ field ∈ (fields.dropWhile fun field => field.1 ≠ key).filter fun field =>
      field.1 ≠ key, field.1 ≠ key :=
    fun field hfield => by simpa using (List.mem_filter.mp hfield).2
  rw [valuesAt_eq_nil]
  intro field hfield
  simp only [remove] at hfield
  split at hfield
  · exact hfront field hfield
  · rcases List.mem_append.mp hfield with hfield | hfield
    · rcases List.mem_append.mp hfield with hfield | hfield
      · exact hfront field hfield
      · exact hback field (List.mem_of_mem_filter hfield)
    · exact hback field (List.mem_of_mem_filter hfield)

/-- The removal of a key that is not there. -/
theorem remove_of_absent (h : fields.valuesAt key = []) : fields.remove key = fields := by
  rw [valuesAt_eq_nil] at h
  have hfront : (fields.takeWhile fun field => decide (field.1 ≠ key)) = fields := by
    rw [List.takeWhile_eq_self_iff]
    exact fun field hfield => by simpa using h field hfield
  have hback : (fields.dropWhile fun field => decide (field.1 ≠ key)) = [] := by
    rw [List.dropWhile_eq_nil_iff]
    exact fun field hfield => by simpa using h field hfield
  rw [remove, hfront, hback]
  rfl

theorem get?_remove_of_ne (hkey : key' ≠ key) :
    (fields.remove key).get? key' = fields.get? key' := by
  rw [get?_eq_getLast?, get?_eq_getLast?, valuesAt_remove_of_ne hkey]

@[simp] theorem get?_remove_self : (fields.remove key).get? key = none := by
  rw [get?_eq_getLast?, valuesAt_remove_self]
  rfl

theorem get?_without_of_ne (hkey : key' ≠ key) :
    (fields.without key).get? key' = fields.get? key' := by
  rw [get?_eq_getLast?, get?_eq_getLast?, without, valuesAt_filter_ne hkey]

theorem get?_orInsert_of_ne (hkey : key' ≠ key) :
    (fields.orInsert key value).get? key' = fields.get? key' := by
  unfold orInsert
  split
  · rfl
  · rw [get?_append_singleton, if_neg hkey]

theorem get?_modify_of_ne {f : Json → Json} (hkey : key' ≠ key) :
    (fields.modify key f).get? key' = fields.get? key' := by
  unfold modify
  split
  · exact get?_insert_of_ne hkey
  · rfl

theorem without_map_onKey (f : Json → Json) :
    without (fields.map (onKey key f)) key' = (fields.without key').map (onKey key f) := by
  simp only [without, List.filter_map]
  congr 1
  refine List.filter_congr fun field _ => ?_
  simp

theorem without_append (fields fields' : Fields) (key : String) :
    without (List.append fields fields') key =
      List.append (fields.without key) (without fields' key) :=
  List.filter_append ..

/-- What is inserted under the key that is left out is left out. -/
@[simp] theorem without_insert_self :
    (fields.insert key value).without key = fields.without key := by
  rw [insert_eq]
  split
  · simp only [without, List.filter_map]
    have hkept : (fields.filter fun field => field.1 ≠ key).map (onKey key fun _ => value) =
        fields.filter fun field => field.1 ≠ key := by
      refine (List.map_congr_left fun field hfield => ?_).trans (List.map_id _)
      have hne : field.1 ≠ key := by simpa using (List.mem_filter.mp hfield).2
      simp [onKey, hne]
    refine Eq.trans ?_ hkept
    congr 1
    refine List.filter_congr fun field _ => ?_
    simp
  · have hnone : without [(key, value)] key = [] := by simp [without]
    rw [without_append, hnone]
    exact List.append_nil _

theorem any_without_of_ne (hkey : key' ≠ key) :
    (fields.without key).any (·.1 == key') = fields.any (·.1 == key') := by
  rw [← isSome_get?, ← isSome_get?, get?_without_of_ne hkey]

theorem without_insert_of_ne (hkey : key' ≠ key) :
    (fields.insert key' value).without key = (fields.without key).insert key' value := by
  rw [insert_eq, insert_eq, any_without_of_ne hkey]
  split
  · exact without_map_onKey fun _ => value
  · have hkept : without [(key', value)] key = [(key', value)] := by simp [without, hkey]
    rw [without_append, hkept]

end Fields

mutual

/-- Documents that read the same, the order of fields included. -/
def Json.same : Json → Json → Bool
  | .null, .null => true
  | .bool a, .bool b => a == b
  | .number a, .number b => a == b
  | .string a, .string b => a == b
  | .array a, .array b => sameItems a b
  | .object a, .object b => sameFields a b
  | _, _ => false

def sameItems : List Json → List Json → Bool
  | [], [] => true
  | a :: as, b :: bs => a.same b && sameItems as bs
  | _, _ => false

def sameFields : Fields → Fields → Bool
  | [], [] => true
  | (key, a) :: as, (key', b) :: bs => key == key' && a.same b && sameFields as bs
  | _, _ => false

end

/-- Whether a key stands for two fields, as in no map. -/
def Fields.hasRepeats : Fields → Bool
  | [] => false
  | field :: fields => List.any fields (·.1 == field.1) || Fields.hasRepeats fields

mutual

/-- `==` on documents: the order of the fields of an object does not count. Lists of fields that
are no maps are compared as lists. -/
def Json.beq : Json → Json → Bool
  | .null, .null => true
  | .bool a, .bool b => a == b
  | .number a, .number b => a == b
  | .string a, .string b => a == b
  | .array a, .array b => beqItems a b
  | .object a, .object b =>
    if Fields.hasRepeats a || Fields.hasRepeats b then sameFields a b
    else a.length == b.length && beqFields a b
  | _, _ => false

def beqItems : List Json → List Json → Bool
  | [], [] => true
  | a :: as, b :: bs => a.beq b && beqItems as bs
  | _, _ => false

/-- Every field is in the other object. -/
def beqFields : Fields → Fields → Bool
  | [], _ => true
  | (key, a) :: as, fields =>
    (match Fields.get? fields key with
      | some b => a.beq b
      | none => false) && beqFields as fields

end

mutual

theorem Json.eq_of_same : ∀ {a b : Json}, a.same b = true → a = b
  | .null, .null, _ => rfl
  | .bool a, .bool b, h => by simpa [Json.same] using h
  | .number a, .number b, h => by simpa [Json.same] using h
  | .string a, .string b, h => by simpa [Json.same] using h
  | .array a, .array b, h => congrArg Json.array (eq_of_sameItems h)
  | .object a, .object b, h => congrArg Json.object (eq_of_sameFields h)

theorem eq_of_sameItems : ∀ {a b : List Json}, sameItems a b = true → a = b
  | [], [], _ => rfl
  | a :: as, b :: bs, h => by
    simp only [sameItems, Bool.and_eq_true] at h
    rw [Json.eq_of_same h.1, eq_of_sameItems h.2]

theorem eq_of_sameFields : ∀ {a b : Fields}, sameFields a b = true → a = b
  | [], [], _ => rfl
  | (key, a) :: as, (key', b) :: bs, h => by
    simp only [sameFields, Bool.and_eq_true, beq_iff_eq] at h
    rw [h.1.1, Json.eq_of_same h.1.2, eq_of_sameFields h.2]

end

mutual

theorem Json.same_self : ∀ a : Json, a.same a = true
  | .null => rfl
  | .bool _ => by simp [Json.same]
  | .number _ => by simp [Json.same]
  | .string _ => by simp [Json.same]
  | .array items => sameItems_self items
  | .object fields => sameFields_self fields

theorem sameItems_self : ∀ items : List Json, sameItems items items = true
  | [] => rfl
  | item :: items => by simp [sameItems, Json.same_self item, sameItems_self items]

theorem sameFields_self : ∀ fields : Fields, sameFields fields fields = true
  | [] => rfl
  | (_, value) :: fields => by simp [sameFields, Json.same_self value, sameFields_self fields]

end

namespace Fields

variable {fields fields' : Fields} {key : String} {value : Json}

theorem hasRepeats_eq_false :
    fields.hasRepeats = false ↔ (List.map (·.1) fields).Nodup := by
  induction fields with
  | nil => simp [hasRepeats]
  | cons field fields ih =>
    have hother : (∀ other ∈ fields, ¬(other.1 == field.1) = true) ↔
        field.1 ∉ fields.map (·.1) := by
      simp only [beq_iff_eq, List.mem_map, not_exists, not_and]
    rw [hasRepeats, Bool.or_eq_false_iff, ih, List.map_cons, List.nodup_cons, List.any_eq_false,
      hother]

theorem mem_of_get? (h : fields.get? key = some value) : (key, value) ∈ fields := by
  rw [get?_eq_getLast?] at h
  have hmem := List.mem_of_getLast? h
  simp only [valuesAt, List.mem_map, List.mem_filter, decide_eq_true_eq] at hmem
  obtain ⟨field, ⟨hfield, rfl⟩, rfl⟩ := hmem
  exact hfield

/-- A map has one value for a key. -/
theorem get?_of_mem (hkeys : (fields.map (·.1)).Nodup) (hmem : (key, value) ∈ fields) :
    fields.get? key = some value := by
  have hany : fields.any (·.1 == key) = true := List.any_eq_true.mpr ⟨_, hmem, by simp⟩
  obtain ⟨found, hfound⟩ := Option.isSome_iff_exists.mp ((isSome_get? fields key).trans hany)
  have hsame := List.inj_on_of_nodup_map hkeys (mem_of_get? hfound) hmem rfl
  rw [hfound, (Prod.mk.inj hsame).2]

theorem lookup_of_mem (hkeys : (fields.map (·.1)).Nodup) (hmem : (key, value) ∈ fields) :
    fields.lookup key = some value := by
  have hreversed : (fields.reverse.map (·.1)).Nodup := by
    rwa [List.map_reverse, List.nodup_reverse]
  have hget := get?_of_mem hreversed (List.mem_reverse.mpr hmem)
  rwa [get?, Json.get?, List.reverse_reverse] at hget

/-- Inserting the value that is there changes nothing. -/
theorem insert_get? (hkeys : (fields.map (·.1)).Nodup) (h : fields.get? key = some value) :
    fields.insert key value = fields := by
  have hany : fields.any (·.1 == key) = true := by rw [← isSome_get?, h]; rfl
  rw [insert_eq, if_pos hany]
  refine (List.map_congr_left fun field hfield => ?_).trans (List.map_id _)
  unfold onKey
  split
  next hname =>
    subst hname
    have hvalue : some field.2 = some value := (get?_of_mem hkeys hfield).symm.trans h
    rw [← Option.some.inj hvalue]
    rfl
  next => rfl

theorem beqFields_iff :
    beqFields fields fields' = true ↔
      ∀ field ∈ fields, ∃ value, fields'.get? field.1 = some value ∧ field.2.beq value = true := by
  induction fields with
  | nil => simp [beqFields]
  | cons field fields ih =>
    obtain ⟨key, value⟩ := field
    rw [beqFields, Bool.and_eq_true, ih, List.forall_mem_cons]
    cases fields'.get? key <;> simp

end Fields

mutual

theorem Json.beq_self : ∀ a : Json, a.beq a = true
  | .null => rfl
  | .bool _ => by simp [Json.beq]
  | .number _ => by simp [Json.beq]
  | .string _ => by simp [Json.beq]
  | .array items => beqItems_self items
  | .object fields => by
    rw [Json.beq]
    split
    · exact sameFields_self fields
    next hrepeats =>
      have hkeys : (fields.map (·.1)).Nodup := by
        rw [← Fields.hasRepeats_eq_false]
        simpa using hrepeats
      simp only [beq_self_eq_true, Bool.true_and]
      exact beqFields_of_subset hkeys fields fun _ h => h

theorem beqItems_self : ∀ items : List Json, beqItems items items = true
  | [] => rfl
  | item :: items => by simp [beqItems, Json.beq_self item, beqItems_self items]

theorem beqFields_of_subset {all : Fields} (hkeys : (all.map (·.1)).Nodup) :
    ∀ fields : Fields, fields ⊆ all → beqFields fields all = true
  | [], _ => rfl
  | (key, value) :: fields, hall => by
    have hvalue := Fields.get?_of_mem hkeys (hall List.mem_cons_self)
    rw [beqFields, hvalue]
    simp only [Json.beq_self value, Bool.true_and]
    exact beqFields_of_subset hkeys fields fun _ h => hall (List.mem_cons_of_mem _ h)

end

end Codaze.Foundation
