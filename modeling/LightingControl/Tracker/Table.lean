/-!
# Tables by sequence number

A table has one entry for each of the 256 sequence numbers.  The lemmas say what reading gives after
writing.
-/

set_option autoImplicit false

namespace LightingControl

structure Table (α : Type) where
  entries : Vector α 256
  deriving DecidableEq

namespace Table

variable {α : Type}

def const (value : α) : Table α :=
  ⟨Vector.replicate 256 value⟩

def get (table : Table α) (seq : UInt8) : α :=
  have bound : seq.toNat < 256 := seq.toNat_lt
  table.entries[seq.toNat]

def put (table : Table α) (seq : UInt8) (value : α) : Table α :=
  ⟨table.entries.set seq.toNat value seq.toNat_lt⟩

@[simp] theorem get_const (value : α) (seq : UInt8) : (const value).get seq = value := by
  simp [const, get]

@[simp] theorem get_put_self (table : Table α) (seq : UInt8) (value : α) :
    (table.put seq value).get seq = value := by
  simp [put, get]

theorem get_put_of_ne (table : Table α) {seq other : UInt8} (value : α) (h : seq ≠ other) :
    (table.put seq value).get other = table.get other := by
  have distinct : seq.toNat ≠ other.toNat := fun same => h (UInt8.toNat_inj.1 same)
  simp [put, get, distinct]

theorem ext {table other : Table α} (h : ∀ seq, table.get seq = other.get seq) : table = other := by
  obtain ⟨entries⟩ := table
  obtain ⟨others⟩ := other
  congr 1
  apply Vector.ext
  intro i bound
  have same := h (UInt8.ofNat i)
  have index : (UInt8.ofNat i).toNat = i := by simpa using bound
  simpa [get, index] using same

end Table

end LightingControl
