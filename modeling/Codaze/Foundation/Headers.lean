import Codaze.Foundation.Json
import Codaze.Foundation.Utf8

/-!
# HTTP headers

A header map keeps the values of a name in the order they were added; names are
written in lower case.
-/
namespace Codaze.Foundation

/-- The bytes `HeaderValue::from_str` accepts. -/
def isHeaderByte (b : Byte) : Bool := b.toNat == 9 || (32 ≤ b.toNat && b.toNat != 127)

/-- The bytes `HeaderValue::to_str` reads. -/
def isVisibleAscii (b : Byte) : Bool := b.toNat == 9 || (32 ≤ b.toNat && b.toNat < 127)

structure HeaderValue where
  bytes : List Byte
  valid : bytes.all isHeaderByte
  deriving DecidableEq

namespace HeaderValue

def fromStr (s : String) : Option HeaderValue :=
  if h : (utf8Bytes s).all isHeaderByte then some ⟨utf8Bytes s, h⟩ else none

def toStr (value : HeaderValue) : Option String :=
  if value.bytes.all isVisibleAscii then some (String.ofList (fromUtf8Lossy value.bytes))
  else none

/-- The text of a header value that was made of a string. -/
theorem toStr_fromStr {s : String} {value : HeaderValue} (h : fromStr s = some value) :
    value.toStr = if (utf8Bytes s).all isVisibleAscii then some s else none := by
  unfold fromStr at h
  split at h
  next hvalid =>
    obtain rfl := Option.some.inj h
    simp [toStr, fromUtf8Lossy_utf8Bytes]
  next => cases h

end HeaderValue

/-- `http::HeaderMap`. -/
abbrev HeaderMap := List (String × HeaderValue)

namespace HeaderMap

/-- The first value of a name. -/
def get (headers : HeaderMap) (name : String) : Option HeaderValue := headers.lookup name

def getAll (headers : HeaderMap) (name : String) : List HeaderValue :=
  (headers.filter fun header => header.1 = name).map (·.2)

def containsKey (headers : HeaderMap) (name : String) : Bool := (headers.get name).isSome

def remove (headers : HeaderMap) (name : String) : HeaderMap :=
  headers.filter fun header => header.1 ≠ name

/-- `HeaderMap::insert` replaces every value of the name. -/
def insert (headers : HeaderMap) (name : String) (value : HeaderValue) : HeaderMap :=
  headers.remove name ++ [(name, value)]

def append (headers : HeaderMap) (name : String) (value : HeaderValue) : HeaderMap :=
  List.append headers [(name, value)]

variable {headers : HeaderMap} {name name' : String} {value : HeaderValue}

@[simp] theorem getAll_remove (headers : HeaderMap) (name : String) :
    (headers.remove name).getAll name = [] := by
  simp [getAll, remove, List.filter_filter]

theorem getAll_remove_of_ne (hname : name' ≠ name) :
    (headers.remove name).getAll name' = headers.getAll name' := by
  simp only [getAll, remove, List.filter_filter]
  congr 1
  refine List.filter_congr fun header _ => ?_
  by_cases hheader : header.1 = name'
  · simp [hheader, hname]
  · simp [hheader]

theorem get_remove_of_ne (hname : name' ≠ name) :
    (headers.remove name).get name' = headers.get name' := by
  induction headers with
  | nil => rfl
  | cons header headers ih =>
    obtain ⟨key, value⟩ := header
    have ih : (headers.filter fun header => header.1 ≠ name).lookup name' =
      headers.lookup name' := ih
    by_cases hkey : key = name
    · have hne : (name' == name) = false := beq_false_of_ne hname
      simp only [get, remove, hkey, List.filter_cons, ne_eq, not_true_eq_false, decide_false,
        List.lookup_cons, hne]
      exact ih
    · simp only [get, remove, List.filter_cons, hkey, not_false_eq_true, decide_true, if_true,
        List.lookup_cons, ne_eq, ih]

theorem remove_remove_comm (headers : HeaderMap) (name name' : String) :
    (headers.remove name).remove name' = (headers.remove name').remove name := by
  simp only [remove, List.filter_filter, Bool.and_comm]

theorem remove_append (headers headers' : HeaderMap) (name : String) :
    remove (List.append headers headers') name =
      List.append (headers.remove name) (remove headers' name) :=
  List.filter_append ..

theorem insert_remove_of_ne (hname : name' ≠ name) :
    (headers.remove name).insert name' value = (headers.insert name' value).remove name := by
  have hvalue : remove [(name', value)] name = [(name', value)] := by simp [remove, hname]
  calc (headers.remove name).insert name' value
      = List.append ((headers.remove name).remove name') [(name', value)] := rfl
    _ = List.append ((headers.remove name').remove name) (remove [(name', value)] name) := by
      rw [remove_remove_comm, hvalue]
    _ = (headers.insert name' value).remove name := (remove_append ..).symm

@[simp] theorem getAll_append (headers headers' : HeaderMap) (name : String) :
    getAll (List.append headers headers') name =
      List.append (headers.getAll name) (getAll headers' name) := by
  change List.map _ (List.filter _ (headers ++ headers')) = _
  rw [List.filter_append, List.map_append]
  rfl

theorem getAll_insert_of_ne (hname : name' ≠ name) :
    (headers.insert name' value).getAll name = headers.getAll name := by
  have hvalue : getAll [(name', value)] name = [] := by simp [getAll, hname]
  calc (headers.insert name' value).getAll name
      = List.append ((headers.remove name').getAll name) (getAll [(name', value)] name) :=
        getAll_append ..
    _ = headers.getAll name := by
      rw [hvalue, getAll_remove_of_ne hname.symm]
      exact List.append_nil _

theorem getAll_insert_self : (headers.insert name value).getAll name = [value] := by
  have hvalue : getAll [(name, value)] name = [value] := by simp [getAll]
  calc (headers.insert name value).getAll name
      = List.append ((headers.remove name).getAll name) (getAll [(name, value)] name) :=
        getAll_append ..
    _ = [value] := by rw [hvalue, getAll_remove]; rfl

theorem get_eq_head? (headers : HeaderMap) (name : String) :
    headers.get name = (headers.getAll name).head? := by
  rw [get, lookup_eq_head?_filter, getAll, List.head?_map]

theorem mem_names : name ∈ headers.map (·.1) ↔ headers.getAll name ≠ [] := by
  rw [getAll, ne_eq, List.map_eq_nil_iff, List.filter_eq_nil_iff, List.mem_map]
  push Not
  simp only [decide_eq_true_eq]

theorem getAll_foldl_remove (names : List String) (headers : HeaderMap) (name : String) :
    (names.foldl remove headers).getAll name =
      if name ∈ names then [] else headers.getAll name := by
  induction names generalizing headers with
  | nil => simp
  | cons first names ih =>
    rw [List.foldl_cons, ih]
    by_cases hfirst : name = first
    · subst hfirst
      simp
    · simp [hfirst, getAll_remove_of_ne hfirst]

end HeaderMap

end Codaze.Foundation
