import Mathlib
import Switchboard.Proofs.Json.RoundTrip

/-!
# Sorted fields

Sorting the fields of a value once is enough (`Json.canonical_canonical`): among sorted fields no name comes twice, so sorting
them again changes nothing. It keeps numbers whole, and makes no value deeper. A value travels (`Json.Travels`) when it is
sorted, its numbers are whole, and it nests no deeper than a reader follows.
-/

namespace Switchboard

namespace Json

/-! ## Fields of one object -/

section Fields

variable {α : Type} {fields : List (String × α)}

/-- The names are in ascending order, and none comes twice. -/
def Ascending (fields : List (String × α)) : Prop :=
  fields.Pairwise fun a b => a.1 < b.1

/-- Keeping the last of each name only leaves fields away. -/
theorem keepLast_sublist : (fields : List (String × α)) → (keepLast fields).Sublist fields
  | [] => List.Sublist.refl _
  | [entry] => List.Sublist.refl _
  | entry :: next :: rest => by
    rw [keepLast]
    split
    · exact (keepLast_sublist (next :: rest)).cons entry
    · exact (keepLast_sublist (next :: rest)).cons_cons entry

/-- The first name is still there when one of each name is kept. -/
theorem keepLast_ascending : (fields : List (String × α)) → fields.Pairwise (fun a b => a.1 ≤ b.1) →
    Ascending (keepLast fields)
  | [], _ => List.Pairwise.nil
  | [entry], _ => List.pairwise_singleton _ _
  | entry :: next :: rest, h => by
    obtain ⟨hentry, hrest⟩ := List.pairwise_cons.mp h
    have ih := keepLast_ascending (next :: rest) hrest
    rw [keepLast]
    split
    · exact ih
    · next hne =>
      refine List.pairwise_cons.mpr ⟨fun other hother => ?_, ih⟩
      -- the neighbour has another name, and whatever comes later none that is less
      have hlt : entry.1 < next.1 := lt_of_le_of_ne (hentry next List.mem_cons_self) hne
      rcases List.mem_cons.mp ((keepLast_sublist (next :: rest)).subset hother) with rfl | hlater
      · exact hlt
      · exact lt_of_lt_of_le hlt ((List.pairwise_cons.mp hrest).1 other hlater)

/-- Where the names ascend, nothing is left away. -/
theorem keepLast_of_ascending : (fields : List (String × α)) → Ascending fields → keepLast fields = fields
  | [], _ => rfl
  | [_], _ => rfl
  | entry :: next :: rest, h => by
    obtain ⟨hentry, hrest⟩ := List.pairwise_cons.mp h
    rw [keepLast, if_neg (ne_of_lt (hentry next List.mem_cons_self)), keepLast_of_ascending (next :: rest) hrest]

/-- Sorting puts the names in order. -/
theorem pairwise_mergeSort (fields : List (String × α)) :
    (fields.mergeSort fun a b => decide (a.1 ≤ b.1)).Pairwise fun a b => a.1 ≤ b.1 := by
  have hsorted := @List.pairwise_mergeSort _ (fun a b : String × α => decide (a.1 ≤ b.1))
    (fun a b c hab hbc => by simpa using le_trans (by simpa using hab) (by simpa using hbc))
    (fun a b => by simpa using le_total a.1 b.1) fields
  simpa using hsorted

/-- Sorted fields ascend. -/
theorem sortFields_ascending (fields : List (String × α)) : Ascending (sortFields fields) :=
  keepLast_ascending _ (pairwise_mergeSort fields)

/-- Those that ascend are sorted already. -/
theorem sortFields_of_ascending (h : Ascending fields) : sortFields fields = fields := by
  have hsorted : fields.Pairwise fun a b => decide (a.1 ≤ b.1) = true :=
    h.imp fun hlt => decide_eq_true (le_of_lt hlt)
  rw [sortFields, List.mergeSort_of_pairwise hsorted, keepLast_of_ascending fields h]

/-- Sorting brings in no new fields. -/
theorem mem_of_mem_sortFields {entry : String × α} (h : entry ∈ sortFields fields) : entry ∈ fields :=
  List.mem_mergeSort.mp ((keepLast_sublist _).subset h)

/-- Fields of different names are all kept. -/
theorem sortFields_perm (h : (fields.map (·.1)).Nodup) : (sortFields fields).Perm fields := by
  have hperm := List.mergeSort_perm fields fun a b => decide (a.1 ≤ b.1)
  have hsorted := pairwise_mergeSort fields
  have hnodup : (fields.mergeSort fun a b => decide (a.1 ≤ b.1)).Pairwise fun a b => a.1 ≠ b.1 :=
    List.pairwise_map.mp ((hperm.map _).nodup_iff.mpr h)
  rw [sortFields, keepLast_of_ascending _ (hsorted.imp₂ (fun _ _ => lt_of_le_of_ne) hnodup)]
  exact hperm

end Fields

/-! ## Whole values -/

/-- The numbers among fields are whole if those of all their values are. -/
theorem isWholeFields_iff {fields : List (String × Json)} :
    isWholeFields fields = true ↔ ∀ entry ∈ fields, entry.2.isWhole = true := by
  induction fields with
  | nil => simp [isWholeFields]
  | cons entry rest ih => simp [isWholeFields, ih]

/-- They are no deeper than the deepest of their values. -/
theorem depthFields_le_iff {fields : List (String × Json)} {limit : Nat} :
    depthFields fields ≤ limit ↔ ∀ entry ∈ fields, entry.2.depth ≤ limit := by
  induction fields with
  | nil => simp [depthFields]
  | cons entry rest ih => simp [depthFields, ih]

/-- Each value is brought to its sorted form by itself. -/
theorem canonicalFields_eq_map : (fields : List (String × Json)) →
    canonicalFields fields = fields.map fun entry => (entry.1, entry.2.canonical)
  | [] => rfl
  | _ :: rest => by rw [canonicalFields, canonicalFields_eq_map rest, List.map_cons]

/-- An object of one field is sorted. -/
theorem canonical_field (name : String) (v : Json) : (object [(name, v)]).canonical = object [(name, v.canonical)] := by
  rw [canonical, canonicalFields, canonicalFields, sortFields_of_ascending (List.pairwise_singleton _ _)]

/-- Values that are in their sorted form stay. -/
theorem canonicalFields_of_canonical : (fields : List (String × Json)) →
    (∀ entry ∈ fields, entry.2.canonical = entry.2) → canonicalFields fields = fields
  | [], _ => rfl
  | (name, v) :: rest, h => by
    obtain ⟨hv, hrest⟩ := List.forall_mem_cons.mp h
    rw [canonicalFields, hv, canonicalFields_of_canonical rest hrest]

mutual

/-- Sorted fields stay as they are when they are sorted again. -/
theorem canonical_canonical : (v : Json) → v.canonical.canonical = v.canonical
  | .null | .bool _ | .number _ | .string _ => rfl
  | .array items => by rw [canonical, canonical, canonicalItems_canonicalItems]
  | .object fields => by
    have hsorted : canonicalFields (sortFields (canonicalFields fields)) = sortFields (canonicalFields fields) :=
      canonicalFields_of_canonical _ fun entry hentry =>
        canonical_of_mem_canonicalFields fields entry (mem_of_mem_sortFields hentry)
    rw [canonical, canonical, hsorted, sortFields_of_ascending (sortFields_ascending _)]

/-- Items in their sorted forms stay, along with `canonical_canonical`. -/
theorem canonicalItems_canonicalItems : (items : List Json) → canonicalItems (canonicalItems items) = canonicalItems items
  | [] => rfl
  | v :: rest => by
    rw [canonicalItems, canonicalItems, canonical_canonical v, canonicalItems_canonicalItems rest]

/-- Fields in their sorted form have values in theirs. -/
theorem canonical_of_mem_canonicalFields : (fields : List (String × Json)) → ∀ entry ∈ canonicalFields fields,
    entry.2.canonical = entry.2
  | [], _, h => nomatch h
  | (name, v) :: rest, entry, h => by
    rw [canonicalFields] at h
    rcases List.mem_cons.mp h with rfl | h
    · exact canonical_canonical v
    · exact canonical_of_mem_canonicalFields rest entry h

end

mutual

/-- Sorting makes no number a fraction. -/
theorem isWhole_canonical : (v : Json) → v.isWhole = true → v.canonical.isWhole = true
  | .null, h | .bool _, h | .number _, h | .string _, h => h
  | .array items, h => isWholeItems_canonicalItems items h
  | .object fields, h => by
    refine isWholeFields_iff.mpr fun entry hentry => ?_
    exact isWholeFields_iff.mp (isWholeFields_canonicalFields fields h) entry (mem_of_mem_sortFields hentry)

/-- Sorting leaves the numbers among items whole. -/
theorem isWholeItems_canonicalItems : (items : List Json) → isWholeItems items = true →
    isWholeItems (canonicalItems items) = true
  | [], _ => rfl
  | v :: rest, h => by
    rw [isWholeItems, Bool.and_eq_true] at h
    rw [canonicalItems, isWholeItems, isWhole_canonical v h.1, isWholeItems_canonicalItems rest h.2, Bool.and_self]

/-- Sorting leaves the numbers among fields whole. -/
theorem isWholeFields_canonicalFields : (fields : List (String × Json)) → isWholeFields fields = true →
    isWholeFields (canonicalFields fields) = true
  | [], _ => rfl
  | (name, v) :: rest, h => by
    rw [isWholeFields, Bool.and_eq_true] at h
    rw [canonicalFields, isWholeFields, isWhole_canonical v h.1, isWholeFields_canonicalFields rest h.2, Bool.and_self]

end

mutual

/-- Sorting makes no value deeper. -/
theorem depth_canonical_le : (v : Json) → v.canonical.depth ≤ v.depth
  | .null | .bool _ | .number _ | .string _ => Nat.le_refl _
  | .array items => Nat.succ_le_succ (depthItems_canonicalItems_le items)
  | .object fields => by
    refine Nat.succ_le_succ (depthFields_le_iff.mpr fun entry hentry => ?_)
    exact depthFields_le_iff.mp (depthFields_canonicalFields_le fields) entry (mem_of_mem_sortFields hentry)

/-- Sorting makes items no deeper. -/
theorem depthItems_canonicalItems_le : (items : List Json) → depthItems (canonicalItems items) ≤ depthItems items
  | [] => Nat.le_refl _
  | v :: rest => by
    rw [canonicalItems, depthItems, depthItems]
    exact max_le_max (depth_canonical_le v) (depthItems_canonicalItems_le rest)

/-- Sorting makes fields no deeper. -/
theorem depthFields_canonicalFields_le : (fields : List (String × Json)) →
    depthFields (canonicalFields fields) ≤ depthFields fields
  | [] => Nat.le_refl _
  | (name, v) :: rest => by
    rw [canonicalFields, depthFields, depthFields]
    exact max_le_max (depth_canonical_le v) (depthFields_canonicalFields_le rest)

end

/-! ## Values in transit -/

/-- A payload that travels: a value in transit, with whole numbers, and no deeper than the limit. -/
structure Travels (limit : Nat) (v : Json) : Prop where
  canonical : v.canonical = v
  whole : v.isWhole = true
  depth_le : v.depth ≤ limit

end Json

end Switchboard
