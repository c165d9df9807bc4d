import RatchetMessaging.Proofs.Wire.Codec
import RatchetMessaging.Record.Catalog

/-!
Contract: every record is read back from its bytes.

Owns:
- for each type of records, that its codec is faithful, with the levels to which it nests others;
- the form of all records: their fields are written in the order of their numbers, and nothing is
  written of a record that holds its defaults alone;
- the bytes that a store keeps: a record of the present schema version is read back as it was
  written, and one of any other version is refused.

Does not own: bytes that nobody wrote.
-/

namespace RatchetMessaging.Record

open Wire FieldCodec ScalarCodec

namespace ChainRecord

theorem faithful : codec.Faithful 0 where
  distinct := by decide
  numbers := by decide
  carries _ _ _ :=
    .cons (carries_plain faithful_bytes rfl rfl) <|
    .cons (carries_plain faithful_word rfl rfl) .nil

end ChainRecord

namespace SkippedKeyRecord

theorem faithful : codec.Faithful 0 where
  distinct := by decide
  numbers := by decide
  carries _ _ _ :=
    .cons (carries_plain faithful_word rfl rfl) <|
    .cons (carries_plain faithful_word rfl rfl) <|
    .cons (carries_plain faithful_bytes rfl rfl) .nil

end SkippedKeyRecord

namespace PreviousRemoteKeyRecord

theorem faithful : codec.Faithful 0 where
  distinct := by decide
  numbers := by decide
  carries _ _ _ :=
    .cons (carries_plain faithful_bytes rfl rfl) <|
    .cons (carries_plain faithful_word rfl rfl) .nil

end PreviousRemoteKeyRecord

namespace ReplayGenerationRecord

theorem faithful : codec.Faithful 0 where
  distinct := by decide
  numbers := by decide
  carries _ _ _ :=
    .cons (carries_plain faithful_word rfl rfl) <|
    .cons (carries_plain faithful_word rfl rfl) <|
    .cons (carries_packed faithful_word (fun _ => writeVarint_ne_nil _) rfl rfl) .nil

end ReplayGenerationRecord

namespace ReplayRecord

theorem faithful : codec.Faithful 1 where
  distinct := by decide
  numbers := by decide
  carries _ _ deep :=
    .cons (carries_plain faithful_word rfl rfl) <|
    .cons (carries_repeatedNested ReplayGenerationRecord.faithful (by omega) rfl
      ⟨fun _ _ => rfl, fun _ => rfl, fun _ _ _ => rfl⟩) .nil

end ReplayRecord

namespace ConnectionRecord

theorem faithful : codec.Faithful 2 where
  distinct := by decide
  numbers := by decide
  carries _ _ deep :=
    .cons (carries_plain faithful_word rfl rfl) <|
    .cons (carries_plain faithful_word rfl rfl) <|
    .cons (carries_plain faithful_truth rfl rfl) <|
    .cons (carries_plain faithful_bytes rfl rfl) <|
    .cons (carries_nested ChainRecord.faithful (by omega) rfl rfl) <|
    .cons (carries_nested ChainRecord.faithful (by omega) rfl rfl) <|
    .cons (carries_plain faithful_bytes rfl rfl) <|
    .cons (carries_plain faithful_bytes rfl rfl) <|
    .cons (carries_plain faithful_bytes rfl rfl) <|
    .cons (carries_plain faithful_word rfl rfl) <|
    .cons (carries_repeatedNested PreviousRemoteKeyRecord.faithful (by omega) rfl
      ⟨fun _ _ => rfl, fun _ => rfl, fun _ _ _ => rfl⟩) <|
    .cons (carries_plain faithful_word rfl rfl) <|
    .cons (carries_plain faithful_truth rfl rfl) <|
    .cons (carries_repeatedNested SkippedKeyRecord.faithful (by omega) rfl
      ⟨fun _ _ => rfl, fun _ => rfl, fun _ _ _ => rfl⟩) <|
    .cons (carries_nested ReplayRecord.faithful (by omega) rfl rfl) <|
    .cons (carries_plain faithful_bytes rfl rfl) <|
    .cons (carries_plain faithful_text rfl rfl) <|
    .cons (carries_plain faithful_longWord rfl rfl) <|
    .cons (carries_repeated faithful_bytes rfl
      ⟨fun _ _ => rfl, fun _ => rfl, fun _ _ _ => rfl⟩) .nil

end ConnectionRecord

namespace OneTimePreKeyRecord

theorem faithful : codec.Faithful 0 where
  distinct := by decide
  numbers := by decide
  carries _ _ _ :=
    .cons (carries_plain faithful_word rfl rfl) <|
    .cons (carries_plain faithful_bytes rfl rfl) <|
    .cons (carries_plain faithful_bytes rfl rfl) .nil

end OneTimePreKeyRecord

namespace IdentityRecord

theorem faithful : codec.Faithful 1 where
  distinct := by decide
  numbers := by decide
  carries _ _ deep :=
    .cons (carries_plain faithful_bytes rfl rfl) <|
    .cons (carries_plain faithful_bytes rfl rfl) <|
    .cons (carries_plain faithful_bytes rfl rfl) <|
    .cons (carries_plain faithful_bytes rfl rfl) <|
    .cons (carries_plain faithful_word rfl rfl) <|
    .cons (carries_plain faithful_bytes rfl rfl) <|
    .cons (carries_plain faithful_bytes rfl rfl) <|
    .cons (carries_plain faithful_bytes rfl rfl) <|
    .cons (carries_repeatedNested OneTimePreKeyRecord.faithful (by omega) rfl
      ⟨fun _ _ => rfl, fun _ => rfl, fun _ _ _ => rfl⟩) .nil

end IdentityRecord

namespace OneTimePreKeyPublicRecord

theorem faithful : codec.Faithful 0 where
  distinct := by decide
  numbers := by decide
  carries _ _ _ :=
    .cons (carries_plain faithful_word rfl rfl) <|
    .cons (carries_plain faithful_bytes rfl rfl) .nil

end OneTimePreKeyPublicRecord

namespace BundleRecord

theorem faithful : codec.Faithful 1 where
  distinct := by decide
  numbers := by decide
  carries _ _ deep :=
    .cons (carries_plain faithful_bytes rfl rfl) <|
    .cons (carries_plain faithful_bytes rfl rfl) <|
    .cons (carries_plain faithful_word rfl rfl) <|
    .cons (carries_plain faithful_bytes rfl rfl) <|
    .cons (carries_plain faithful_bytes rfl rfl) <|
    .cons (carries_repeatedNested OneTimePreKeyPublicRecord.faithful (by omega) rfl
      ⟨fun _ _ => rfl, fun _ => rfl, fun _ _ _ => rfl⟩) <|
    .cons (carries_plain faithful_bytes rfl rfl) .nil

end BundleRecord

namespace HelloRecord

theorem faithful : codec.Faithful 0 where
  distinct := by decide
  numbers := by decide
  carries _ _ _ :=
    .cons (carries_plain faithful_bytes rfl rfl) <|
    .cons (carries_plain faithful_bytes rfl rfl) <|
    .cons (carries_plain faithful_bytes rfl rfl) <|
    .cons (carries_plain faithful_word rfl rfl) <|
    .cons (carries_optional faithful_word rfl rfl) <|
    .cons (carries_plain faithful_bytes rfl rfl) .nil

end HelloRecord

namespace SessionRecord

theorem faithful : codec.Faithful 3 where
  distinct := by decide
  numbers := by decide
  carries _ _ deep :=
    .cons (carries_plain faithful_word rfl rfl) <|
    .cons (carries_nested IdentityRecord.faithful (by omega) rfl rfl) <|
    .cons (carries_nested ConnectionRecord.faithful (by omega) rfl rfl) .nil

/-- Of the bytes of a record, the check of the schema version decides what is read. -/
theorem decode_encode_eq_checkVersion {record : SessionRecord}
    (fits : record.encode.length < 2 ^ 64) : decode record.encode = checkVersion record := by
  unfold decode encode
  rw [faithful.decode_write (by decide) fits]
  rfl

/-- A record of the present schema version is read back as it was written. -/
theorem decode_encode {record : SessionRecord} (current : record.version = currentVersion)
    (fits : record.encode.length < 2 ^ 64) : decode record.encode = .ok record :=
  (decode_encode_eq_checkVersion fits).trans (if_pos current)

theorem decode_encode_of_version_ne {record : SessionRecord}
    (other : record.version ≠ currentVersion) (fits : record.encode.length < 2 ^ 64) :
    decode record.encode =
      .error (.decode s!"Unsupported schema version: {record.version}") :=
  (decode_encode_eq_checkVersion fits).trans (if_neg other)

theorem decode_encode_eq_ok_iff {record : SessionRecord}
    (fits : record.encode.length < 2 ^ 64) :
    decode record.encode = .ok record ↔ record.version = currentVersion := by
  refine ⟨fun read => Decidable.of_not_not fun other => ?_,
    fun current => decode_encode current fits⟩
  rw [decode_encode_of_version_ne other fits] at read
  cases read

end SessionRecord

/-! ### All records -/

theorem faithful_of_mem_catalog {entry : RecordType} (member : entry ∈ catalog) :
    ∃ levels ≤ RecordCodec.maxDepth, entry.codec.Faithful levels := by
  simp only [catalog, List.mem_cons, List.not_mem_nil, or_false] at member
  rcases member with rfl | rfl | rfl | rfl | rfl | rfl | rfl | rfl | rfl | rfl | rfl | rfl
  · exact ⟨0, by decide, ChainRecord.faithful⟩
  · exact ⟨0, by decide, SkippedKeyRecord.faithful⟩
  · exact ⟨0, by decide, PreviousRemoteKeyRecord.faithful⟩
  · exact ⟨0, by decide, ReplayGenerationRecord.faithful⟩
  · exact ⟨1, by decide, ReplayRecord.faithful⟩
  · exact ⟨2, by decide, ConnectionRecord.faithful⟩
  · exact ⟨0, by decide, OneTimePreKeyRecord.faithful⟩
  · exact ⟨1, by decide, IdentityRecord.faithful⟩
  · exact ⟨0, by decide, OneTimePreKeyPublicRecord.faithful⟩
  · exact ⟨1, by decide, BundleRecord.faithful⟩
  · exact ⟨0, by decide, HelloRecord.faithful⟩
  · exact ⟨3, by decide, SessionRecord.faithful⟩

/-- The fields stand in the order of their numbers, and defaults are left out. -/
theorem canonical_of_mem_catalog {entry : RecordType} (member : entry ∈ catalog) :
    entry.codec.fields.Pairwise (·.number < ·.number) ∧
      entry.codec.write entry.codec.blank = [] := by
  simp only [catalog, List.mem_cons, List.not_mem_nil, or_false] at member
  rcases member with rfl | rfl | rfl | rfl | rfl | rfl | rfl | rfl | rfl | rfl | rfl | rfl <;>
    exact ⟨by decide, by decide⟩

end RatchetMessaging.Record
