import Mathlib.Data.List.Sort
import Playgrounds.Store.Tables
import Std.Data.ExtTreeSet

/-!
# Maps by key

Maps whose keys are texts, and sets of texts, in the order in which they are listed: by key, each
key once. The ids of a map, listed as a set, come in the order of its records.
-/

namespace Playgrounds.Store

open Std

theorem compare_eq_lt {a b : String} : compare a b = .lt ↔ a < b :=
  compareOfLessAndEq_eq_lt

variable {α : Type} (m : ExtTreeMap String α)

theorem getElem?_insert_eq (k a : String) (v : α) :
    (m.insert k v)[a]? = if k = a then some v else m[a]? := by
  simp [ExtTreeMap.getElem?_insert]

theorem getElem?_erase_eq (k a : String) :
    (m.erase k)[a]? = if k = a then none else m[a]? := by
  simp [ExtTreeMap.getElem?_erase]

theorem mem_iff_getElem? (k : String) : k ∈ m ↔ ∃ a, m[k]? = some a := by
  rw [ExtTreeMap.mem_iff_isSome_getElem?, Option.isSome_iff_exists]

/-- The values of a map stand in the order of their keys, whatever these are. -/
theorem values_eq_map_snd {κ : Type} {cmp : κ → κ → Ordering} [TransCmp cmp]
    (m : ExtTreeMap κ α cmp) : m.values = m.toList.map Prod.snd := by
  obtain ⟨inner⟩ := m
  induction inner using ExtDTreeMap.inductionOn with
  | mk inner =>
      show inner.inner.values
        = (DTreeMap.Internal.Impl.Const.toList inner.inner).map Prod.snd
      rw [DTreeMap.Internal.Impl.values_eq_map_snd,
        DTreeMap.Internal.Impl.Const.toList_eq_toListModel_map, List.map_map]
      rfl

/-- The values of a map are found under its keys. -/
theorem filterMap_keys : m.keys.filterMap (m[·]?) = m.values := by
  rw [values_eq_map_snd, ← ExtTreeMap.map_fst_toList_eq_keys, List.filterMap_map,
    ← List.filterMap_eq_map]
  refine List.filterMap_congr ?_
  intro entry h
  exact ExtTreeMap.mem_toList_iff_getElem?_eq_some.mp h

theorem keys_pairwise_lt : m.keys.Pairwise (· < ·) :=
  m.ordered_keys.imp compare_eq_lt.mp

theorem toList_pairwise_lt (s : ExtTreeSet String) : s.toList.Pairwise (· < ·) :=
  s.ordered_toList.imp compare_eq_lt.mp

/-- The keys of a map as a set. -/
def ids : ExtTreeSet String :=
  .ofList m.keys

theorem mem_ids {k : String} : k ∈ ids m ↔ ∃ a, m[k]? = some a := by
  rw [ids, ExtTreeSet.mem_ofList, List.contains_iff_mem, ExtTreeMap.mem_keys, mem_iff_getElem?]

theorem toList_ids : (ids m).toList = m.keys := by
  refine List.Pairwise.eq_of_mem_iff (toList_pairwise_lt _) (keys_pairwise_lt m) ?_
  intro k
  rw [ExtTreeSet.mem_toList, mem_ids, ExtTreeMap.mem_keys, mem_iff_getElem?]

theorem ids_empty : ids (∅ : ExtTreeMap String α) = ∅ := by
  refine ExtTreeSet.ext_mem fun k => ?_
  rw [mem_ids]
  simp

/-- A record that is inserted adds its id. -/
theorem ids_insert (k : String) (a : α) : ids (m.insert k a) = (ids m).insert k := by
  refine ExtTreeSet.ext_mem fun j => ?_
  rw [mem_ids, ExtTreeSet.mem_insert, mem_ids, getElem?_insert_eq, Std.compare_eq_iff_eq]
  by_cases same : k = j
  · simp [same]
  · simp [same]

/-- A record that is erased takes its id with it. -/
theorem ids_erase (k : String) : ids (m.erase k) = (ids m).erase k := by
  refine ExtTreeSet.ext_mem fun j => ?_
  rw [mem_ids, ExtTreeSet.mem_erase, mem_ids, getElem?_erase_eq, ne_eq, Std.compare_eq_iff_eq]
  by_cases same : k = j
  · simp [same]
  · simp [same]

/-! ## What holds of every record -/

variable {m} {p : String → α → Prop}

/-- Every record has a property, which may speak of its key. -/
def AllAt (p : String → α → Prop) (m : ExtTreeMap String α) : Prop :=
  ∀ (k : String) (a : α), m[k]? = some a → p k a

/-- Every record has a property. -/
abbrev All (p : α → Prop) (m : ExtTreeMap String α) : Prop :=
  AllAt (fun _ => p) m

/-- Every record lies under its own id. -/
abbrev UnderOwn (id : α → String) (m : ExtTreeMap String α) : Prop :=
  AllAt (fun k a => id a = k) m

theorem all_empty : AllAt p ∅ :=
  fun _ _ found => nomatch ExtTreeMap.getElem?_empty.symm.trans found

/-- The ids of records that lie under their own are the keys. -/
theorem map_id_values {id : α → String} (own : UnderOwn id m) : m.values.map id = m.keys := by
  rw [values_eq_map_snd, ← ExtTreeMap.map_fst_toList_eq_keys, List.map_map]
  refine List.map_congr_left ?_
  rintro ⟨k, a⟩ listed
  exact own k a (ExtTreeMap.mem_toList_iff_getElem?_eq_some.mp listed)

/-- What holds of every record and of a new one holds of every record afterwards. -/
theorem AllAt.insert (all : AllAt p m) {k : String} {a : α} (here : p k a) :
    AllAt p (m.insert k a) := by
  intro j b found
  rw [getElem?_insert_eq] at found
  split at found
  · cases found
    subst j
    exact here
  · exact all j b found

/-- What holds of every record holds of those that are left. -/
theorem AllAt.erase (all : AllAt p m) (k : String) : AllAt p (m.erase k) := by
  intro j b found
  rw [getElem?_erase_eq] at found
  split at found
  · exact nomatch found
  · exact all j b found

/-- What holds of every record holds of those that are kept. -/
theorem AllAt.filter (all : AllAt p m) (f : String → α → Bool) : AllAt p (m.filter f) := by
  intro k b found
  rw [ExtTreeMap.getElem?_filter'] at found
  exact all k b (Option.eq_some_of_filter_eq_some found)

end Playgrounds.Store
