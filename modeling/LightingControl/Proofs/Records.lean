import LightingControl.Bytes
import Mathlib.Data.List.Forall2
/-!
# Records of one length

`Bytes.records` cuts a byte string into records of one length.  This module says how many there are,
where each of them stands, and what becomes of them as bytes are appended.
-/

set_option autoImplicit false

namespace LightingControl.Bytes

variable {size : Nat}

theorem records_of_short {bytes : Bytes} (short : bytes.length < size) :
    records size bytes = [] := by
  rw [records, dif_neg (by omega)]

theorem records_cons {record : Bytes} (positive : 0 < size) (whole : record.length = size)
    (more : Bytes) : records size (record ++ more) = record :: records size more := by
  have room : 0 < size ∧ size ≤ (record ++ more).length := by
    rw [List.length_append]
    omega
  rw [records, dif_pos room, List.take_left' whole, List.drop_left' whole]

theorem records_append {bytes : Bytes} (positive : 0 < size) (boundary : size ∣ bytes.length)
    (more : Bytes) : records size (bytes ++ more) = records size bytes ++ records size more := by
  fun_induction records size bytes with
  | case1 bytes room ih =>
    have later : size ∣ (bytes.drop size).length := by
      rw [List.length_drop]
      exact Nat.dvd_sub boundary (Nat.dvd_refl size)
    calc
      records size (bytes ++ more) =
          records size (bytes.take size ++ (bytes.drop size ++ more)) := by
        rw [← List.append_assoc, List.take_append_drop]
      _ = bytes.take size :: records size (bytes.drop size ++ more) :=
        records_cons positive (List.length_take_of_le room.2) _
      _ = _ := by rw [ih later, List.cons_append]
  | case2 bytes full =>
    have none : bytes.length = 0 := Nat.eq_zero_of_dvd_of_lt boundary (by omega)
    rw [List.eq_nil_of_length_eq_zero none]
    rfl

theorem length_records (positive : 0 < size) (bytes : Bytes) :
    (records size bytes).length = bytes.length / size := by
  fun_induction records size bytes with
  | case1 bytes room ih =>
    rw [List.length_cons, ih, List.length_drop, ← Nat.div_eq_sub_div positive room.2]
  | case2 bytes full => exact (Nat.div_eq_of_lt (by omega)).symm

theorem getElem_records {bytes : Bytes} {index : Nat}
    (inside : index < (records size bytes).length) :
    (records size bytes)[index] = (bytes.drop (size * index)).take size := by
  fun_induction records size bytes generalizing index with
  | case1 bytes room ih =>
    cases index with
    | zero => rfl
    | succ index =>
      rw [List.getElem_cons_succ, ih, List.drop_drop, Nat.mul_succ, Nat.add_comm]
  | case2 bytes full => cases inside

variable {ρ : Type} {read? : Bytes → Option ρ}

theorem forall₂_records (total : ∀ record : Bytes, record.length = size → (read? record).isSome)
    (bytes : Bytes) :
    List.Forall₂ (fun found record => read? record = some found)
      ((records size bytes).filterMap read?) (records size bytes) := by
  fun_induction records size bytes with
  | case1 bytes room ih =>
    obtain ⟨found, reads⟩ := Option.isSome_iff_exists.1 (total _ (List.length_take_of_le room.2))
    rw [List.filterMap_cons_some reads]
    exact .cons reads ih
  | case2 bytes full => exact .nil

/-- What was sent as records is read back, whatever is cut off behind them. -/
theorem filterMap_sent {found : List ρ} {sent : List Bytes} (positive : 0 < size)
    (reads : List.Forall₂ (fun value record => record.length = size ∧ read? record = some value)
      found sent) {rest : Bytes} (short : rest.length < size) :
    (records size (sent.flatten ++ rest)).filterMap read? = found := by
  induction reads with
  | nil => rw [List.flatten_nil, List.nil_append, records_of_short short, List.filterMap_nil]
  | cons first others ih =>
    rw [List.flatten_cons, List.append_assoc, records_cons positive first.1,
      List.filterMap_cons_some first.2, ih]

end LightingControl.Bytes
