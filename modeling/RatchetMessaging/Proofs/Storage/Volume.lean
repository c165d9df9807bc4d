import RatchetMessaging.Proofs.OrderedMap
import RatchetMessaging.Storage.Volume

/-!
Contract: what a write does to a volume.

Owns: the records of the slots that are not written, what is loaded from them, and the failures to
come; a volume that refuses every write.

Does not own: repeated attempts.
-/

namespace RatchetMessaging.Volume

variable {volume : Volume} {slot other : StoreSlot} {record : Record.SessionRecord}
  {failure : Error}

theorem find?_put_other (different : slot ≠ other) :
    (volume.put slot record).find? other = volume.find? other := by
  cases slot with
  | identity =>
    cases other with
    | identity => exact absurd rfl different
    | connection connectionId => rfl
  | connection connectionId =>
    cases other with
    | identity => rfl
    | connection otherId =>
      have otherKey : connectionId ≠ otherId := by
        rintro rfl
        exact different rfl
      exact OrderedMap.find?_insert_other _ otherKey _

/-- A write that fails leaves every record. -/
theorem find?_write_of_failure (failed : (volume.write slot record).1 = some failure) :
    (volume.write slot record).2.find? other = volume.find? other := by
  unfold write at failed ⊢
  cases fault : volume.writeFault volume.writes slot with
  | some _ => cases other <;> rfl
  | none => simp [fault] at failed

/-- Every write leaves the records of the other slots. -/
theorem find?_write_other (different : slot ≠ other) :
    (volume.write slot record).2.find? other = volume.find? other := by
  unfold write
  cases volume.writeFault volume.writes slot with
  | some _ => cases other <;> rfl
  | none =>
    refine (find?_put_other different).trans ?_
    cases other <;> rfl

/-- A write that succeeds leaves its record. -/
theorem find?_write_self (accepted : (volume.write slot record).1 = none) :
    (volume.write slot record).2.find? slot = some record := by
  unfold write at accepted ⊢
  cases fault : volume.writeFault volume.writes slot with
  | some failure => simp [fault] at accepted
  | none =>
    cases slot with
    | identity => rfl
    | connection connectionId => exact OrderedMap.find?_insert_self _ _ _

@[simp] theorem writeFault_write (volume : Volume) (slot : StoreSlot)
    (record : Record.SessionRecord) :
    (volume.write slot record).2.writeFault = volume.writeFault := by
  unfold write
  cases volume.writeFault volume.writes slot with
  | some _ => rfl
  | none => cases slot <;> rfl

@[simp] theorem loadFault_write (volume : Volume) (slot : StoreSlot)
    (record : Record.SessionRecord) :
    (volume.write slot record).2.loadFault = volume.loadFault := by
  unfold write
  cases volume.writeFault volume.writes slot with
  | some _ => rfl
  | none => cases slot <;> rfl

/-- A write that no failure awaits succeeds. -/
theorem write_of_no_fault (accepts : volume.writeFault volume.writes slot = none) :
    (volume.write slot record).1 = none := by
  unfold write
  rw [accepts]

/-- What is loaded is the record of the slot. -/
theorem load_eq_ok (loaded : volume.load slot = .ok record) : volume.find? slot = some record := by
  unfold load at loaded
  cases fault : volume.loadFault with
  | some failure =>
    rw [fault] at loaded
    cases loaded
  | none =>
    rw [fault] at loaded
    cases found : volume.find? slot with
    | none =>
      rw [found] at loaded
      cases loaded
    | some stored =>
      simp only [found, Record.SessionRecord.checkVersion] at loaded
      split at loaded
      · cases loaded
        rfl
      · cases loaded

theorem load_write_other (different : slot ≠ other) :
    (volume.write slot record).2.load other = volume.load other := by
  simp only [load, loadFault_write, find?_write_other different]

theorem load_of_find? (loads : volume.loadFault = none) (found : volume.find? slot = some record) :
    volume.load slot = record.checkVersion := by
  simp only [load, loads, found]

/-- A volume that refuses every write. -/
def readOnly : Volume := { writeFault := fun _ _ => some (.storage "volume is read-only") }

end RatchetMessaging.Volume
