import RatchetMessaging.Handshake.Hello
import RatchetMessaging.Proofs.Record

/-!
Contract: bundles and hellos are read back from their bytes.

Owns:
- the keys of a handshake message, also those that may be absent, are read back;
- a bundle is read back as it was written, with however many one-time pre-keys;
- a hello is short enough for its length to be written, and is read back as it was written;
- all that is written is read back: records of every type, persisted sessions of the present
  schema version, bundles and hellos.

Does not own: the agreement that a hello completes.
-/

namespace RatchetMessaging

open Wire

/-! ### Keys -/

theorem X25519PublicKey.ofBytes_toBytes (key : X25519PublicKey) :
    ofBytes key.toBytes = .ok key := by
  simp [ofBytes, toBytes]

theorem Ed25519PublicKey.ofBytes_toBytes (key : Ed25519PublicKey) :
    ofBytes key.toBytes = .ok key := by
  simp [ofBytes, toBytes]

theorem Ed25519Signature.ofBytes_toBytes (signature : Ed25519Signature) :
    ofBytes signature.toBytes = .ok signature := by
  simp [ofBytes, toBytes]

/-- A key is never empty, so an absent one is told from all others. -/
theorem readOptionalKey_writeOptionalKey (key : Option X25519PublicKey) :
    readOptionalKey (writeOptionalKey key) = .ok key := by
  cases key with
  | none => rfl
  | some key =>
    have notEmpty : key.toBytes.isEmpty = false := by
      rw [List.isEmpty_eq_false_iff, ← List.length_pos_iff, X25519PublicKey.toBytes,
        FixedBytes.length_toBytes]
      decide
    simp only [readOptionalKey, writeOptionalKey, Option.map_some, Option.getD_some, notEmpty,
      Bool.false_eq_true, if_false, X25519PublicKey.ofBytes_toBytes]
    rfl

theorem length_writeOptionalKey_le (key : Option X25519PublicKey) :
    (writeOptionalKey key).length ≤ 32 := by
  cases key with
  | none => exact Nat.zero_le 32
  | some key => exact Nat.le_of_eq key.bytes.length_eq

/-! ### The length of a field -/

namespace Wire

variable {ρ α : Type} {limit : Nat} (number : Nat) (name : String) (codec : ScalarCodec α)
  (record : ρ)

theorem length_writeKey_le (wireType : WireType) : (writeKey number wireType).length ≤ 10 :=
  length_writeVarint_le _

theorem length_writeLengthPrefixed_le {bytes : Bytes} (bound : bytes.length ≤ limit) :
    (writeLengthPrefixed bytes).length ≤ 10 + limit := by
  rw [writeLengthPrefixed, List.length_append]
  exact Nat.add_le_add (length_writeVarint_le _) bound

theorem length_write_plain_le [DecidableEq α] (part : Part ρ α)
    (bound : (codec.write (part.get record)).length ≤ limit) :
    ((FieldCodec.plain number name codec part).write record).length ≤ 10 + limit := by
  by_cases absent : part.get record = codec.default
  · have written : (FieldCodec.plain number name codec part).write record = [] := if_pos absent
    rw [written]
    exact Nat.zero_le _
  · have written : (FieldCodec.plain number name codec part).write record =
      writeKey number codec.wireType ++ codec.write (part.get record) := if_neg absent
    rw [written, List.length_append]
    exact Nat.add_le_add (length_writeKey_le number _) bound

theorem length_write_optional_le (part : Part ρ (Option α))
    (bound : ∀ value, (codec.write value).length ≤ limit) :
    ((FieldCodec.optional number name codec part).write record).length ≤ 10 + limit := by
  simp only [FieldCodec.optional]
  split
  · exact Nat.zero_le _
  · rw [List.length_append]
    exact Nat.add_le_add (length_writeKey_le number _) (bound _)

theorem length_write_le {codec : RecordCodec ρ} {record : ρ}
    (bounds : ∀ field ∈ codec.fields, (field.write record).length ≤ limit) :
    (codec.write record).length ≤ codec.fields.length * limit := by
  unfold RecordCodec.write
  generalize codec.fields = fields at bounds
  induction fields with
  | nil => exact Nat.zero_le _
  | cons field rest inductionHypothesis =>
    have first := bounds field List.mem_cons_self
    have others := inductionHypothesis fun other member =>
      bounds other (List.mem_cons_of_mem _ member)
    rw [List.flatMap_cons, List.length_append, List.length_cons, Nat.succ_mul]
    omega

end Wire

/-! ### Bundles -/

namespace Bundle

/-- However many one-time pre-keys a bundle lists, all are read back in their order. -/
theorem mapM_readOneTimePreKey (preKeys : List OneTimePreKeyPublic) :
    (preKeys.map fun preKey =>
      ({ id := preKey.id, publicKey := preKey.publicKey.toBytes } :
        Record.OneTimePreKeyPublicRecord)).mapM readOneTimePreKey = .ok preKeys := by
  induction preKeys with
  | nil => rfl
  | cons preKey others inductionHypothesis =>
    have first : readOneTimePreKey ⟨preKey.id, preKey.publicKey.toBytes⟩ = .ok preKey := by
      rw [readOneTimePreKey, X25519PublicKey.ofBytes_toBytes]
      rfl
    rw [List.map_cons, List.mapM_cons, first, inductionHypothesis]
    rfl

theorem ofRecord_toRecord (bundle : Bundle) : ofRecord bundle.toRecord = .ok bundle := by
  simp only [ofRecord, toRecord, mapM_readOneTimePreKey, Ed25519PublicKey.ofBytes_toBytes,
    X25519PublicKey.ofBytes_toBytes, Ed25519Signature.ofBytes_toBytes,
    readOptionalKey_writeOptionalKey]
  rfl

/-- A bundle is read back as it was written. -/
theorem ofBytes_toBytes {bundle : Bundle} (fits : bundle.toBytes.length < 2 ^ 64) :
    ofBytes bundle.toBytes = .ok bundle := by
  unfold ofBytes toBytes
  rw [Record.BundleRecord.faithful.decode_write (by decide) fits]
  exact bundle.ofRecord_toRecord

end Bundle

/-! ### Hellos -/

namespace Hello

theorem ofRecord_toRecord (hello : Hello) : ofRecord hello.toRecord = .ok hello := by
  simp only [ofRecord, toRecord, Ed25519PublicKey.ofBytes_toBytes,
    X25519PublicKey.ofBytes_toBytes, readOptionalKey_writeOptionalKey]
  rfl

/-- No field takes more than ten bytes each for its key and its length, and thirty-two for a
key. -/
theorem length_toBytes_le (hello : Hello) : hello.toBytes.length ≤ 6 * 52 := by
  have key (number : Nat) (name : String) (part : Part Record.HelloRecord Bytes)
      (bound : (part.get hello.toRecord).length ≤ 32) :
      ((FieldCodec.plain number name .bytes part).write hello.toRecord).length ≤ 52 :=
    length_write_plain_le number name .bytes _ part (length_writeLengthPrefixed_le bound)
  have bounds : ∀ field ∈ Record.HelloRecord.codec.fields,
      (field.write hello.toRecord).length ≤ 52 := by
    intro field member
    simp only [Record.HelloRecord.codec, List.mem_cons, List.not_mem_nil, or_false] at member
    rcases member with rfl | rfl | rfl | rfl | rfl | rfl
    · exact key _ _ _ (Nat.le_of_eq hello.signingKey.bytes.length_eq)
    · exact key _ _ _ (Nat.le_of_eq hello.agreementKey.bytes.length_eq)
    · exact key _ _ _ (Nat.le_of_eq hello.ephemeralKey.bytes.length_eq)
    · exact Nat.le_trans (length_write_plain_le _ _ .word _ _ (length_writeVarint_le _)) (by decide)
    · exact Nat.le_trans (length_write_optional_le _ _ .word _ _ fun _ => length_writeVarint_le _)
        (by decide)
    · exact key _ _ _ (length_writeOptionalKey_le hello.ratchetKey)
  exact length_write_le bounds

/-- A hello is read back as it was written. -/
theorem ofBytes_toBytes (hello : Hello) : ofBytes hello.toBytes = .ok hello := by
  have fits : hello.toBytes.length < 2 ^ 64 :=
    Nat.lt_of_le_of_lt hello.length_toBytes_le (by decide)
  unfold ofBytes toBytes
  rw [Record.HelloRecord.faithful.decode_write (by decide) fits]
  exact hello.ofRecord_toRecord

end Hello

/-! ### All that is written -/

/-- All that is written is read back as it was: every record of every type, the persisted sessions
of the present schema version and no others, every bundle and every hello. Lengths are written with
sixty-four bits, so what is longer than that has no bytes to read back. -/
theorem written_is_read_back :
    (∀ entry ∈ Record.catalog,
      entry.codec.fields.Pairwise (·.number < ·.number) ∧
      entry.codec.write entry.codec.blank = [] ∧
      ∀ record, (entry.codec.write record).length < 2 ^ 64 →
        entry.codec.decode (entry.codec.write record) = .ok record) ∧
    (∀ session : Record.SessionRecord, session.encode.length < 2 ^ 64 →
      (Record.SessionRecord.decode session.encode = .ok session ↔
        session.version = Record.SessionRecord.currentVersion) ∧
      (session.version ≠ Record.SessionRecord.currentVersion →
        Record.SessionRecord.decode session.encode =
          .error (.decode s!"Unsupported schema version: {session.version}"))) ∧
    (∀ bundle : Bundle, bundle.toBytes.length < 2 ^ 64 →
      Bundle.ofBytes bundle.toBytes = .ok bundle) ∧
    ∀ hello : Hello, Hello.ofBytes hello.toBytes = .ok hello := by
  refine ⟨?records, ?sessions, ?bundles, ?hellos⟩
  case records =>
    intro entry member
    obtain ⟨levels, deep, faithful⟩ := Record.faithful_of_mem_catalog member
    obtain ⟨ordered, blankIsEmpty⟩ := Record.canonical_of_mem_catalog member
    exact ⟨ordered, blankIsEmpty, fun record fits => faithful.decode_write deep fits⟩
  case sessions =>
    intro session fits
    exact ⟨Record.SessionRecord.decode_encode_eq_ok_iff fits,
      fun other => Record.SessionRecord.decode_encode_of_version_ne other fits⟩
  case bundles => exact fun bundle fits => Bundle.ofBytes_toBytes fits
  case hellos => exact Hello.ofBytes_toBytes

/-- A connection with a chain that is present and empty, sessions of two schema versions, a bundle
with two one-time pre-keys and no ephemeral key, and a hello that names the pre-key zero. -/
theorem written_is_read_back_sample :
    let connection : Record.ConnectionRecord :=
      { sendingChain := some {}, retiredRemoteKeys := [[], [0]] }
    let session (version : UInt32) : Record.SessionRecord :=
      { version := version, ratchetState := some connection }
    let key : X25519PublicKey := ⟨.replicate 32 1⟩
    let bundle : Bundle :=
      ⟨⟨.replicate 32 2⟩, key, 0, key, ⟨.replicate 64 3⟩, [⟨0, key⟩, ⟨7, key⟩], none⟩
    let hello : Hello := ⟨⟨.replicate 32 2⟩, key, key, 0, some 0, none⟩
    Record.ConnectionRecord.codec.decode (Record.ConnectionRecord.codec.write connection) =
        .ok connection ∧
      Record.SessionRecord.decode (session 1).encode = .ok (session 1) ∧
      Record.SessionRecord.decode (session 2).encode ≠ .ok (session 2) ∧
      Bundle.ofBytes bundle.toBytes = .ok bundle ∧
      Hello.ofBytes hello.toBytes = .ok hello := by
  intro connection session key bundle hello
  obtain ⟨records, sessions, bundles, hellos⟩ := written_is_read_back
  have isListed : ⟨Record.ConnectionRecord.codec, Record.ConnectionRecord.listing⟩ ∈
      Record.catalog := by simp [Record.catalog]
  refine ⟨(records _ isListed).2.2 connection (by decide), (sessions _ (by decide)).1.2 rfl, ?_,
    bundles bundle (by decide +kernel), hellos hello⟩
  exact fun read => absurd ((sessions _ (by decide)).1.1 read) (by decide)

end RatchetMessaging
