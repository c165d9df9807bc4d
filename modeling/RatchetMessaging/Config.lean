import RatchetMessaging.Bytes
import RatchetMessaging.Error

/-!
Contract: the tunable numbers of key agreement, ratchet and persistence.

Owns: the default values, the check that refuses settings the engine cannot run
with, and the part of the settings that the ratchet needs.

Does not own: what each limit does; the modules that apply a limit say so.
-/

namespace RatchetMessaging

/-- Settings of one system. Durations are in whole milliseconds. -/
structure Config where
  /-- Context bound into every key agreement. -/
  protocolInfo : Bytes := Bytes.ofText "Vigil-X3DH-v1"
  /-- One-time pre-keys made for a new identity and aimed at by a replenishment. -/
  oneTimePreKeyCount : Nat := 100
  /-- Fewer remaining one-time pre-keys than this cause a replenishment. -/
  minOneTimePreKeys : Nat := 20
  /-- Largest gap that one incoming message may skip. -/
  maxSkip : UInt32 := 1000
  /-- Most skipped message keys kept; the oldest go first. -/
  maxSkippedMessageKeys : Nat := 2000
  /-- Positions this far below the highest accepted one are refused. -/
  replayWindow : UInt32 := 1024
  /-- Superseded receiving chains that still serve late messages. -/
  maxTrackedGenerations : Nat := 8
  /-- Sending position at which a Diffie-Hellman ratchet is forced. -/
  chainRatchetThreshold : UInt32 := 10000
  /-- Writes tried before a critical save gives up. -/
  criticalSaveAttempts : UInt32 := 5
  /-- Wait before the second write of a save; every further wait is twice as long. -/
  criticalSaveBackoff : Nat := 50
  /-- Wait before a save that may be delayed is written. -/
  saveDebounce : Nat := 250
deriving DecidableEq, Repr

/-- The limits that one ratchet connection needs. -/
structure RatchetLimits where
  maxSkip : UInt32
  maxSkippedMessageKeys : Nat
  replayWindow : UInt32
  maxTrackedGenerations : Nat
  chainRatchetThreshold : UInt32
deriving DecidableEq, Repr

namespace Config

/-- The part of the settings that ratchet connections use. -/
def ratchetLimits (config : Config) : RatchetLimits where
  maxSkip := config.maxSkip
  maxSkippedMessageKeys := config.maxSkippedMessageKeys
  replayWindow := config.replayWindow
  maxTrackedGenerations := config.maxTrackedGenerations
  chainRatchetThreshold := config.chainRatchetThreshold

/-- Refuse settings the engine cannot run with; of several defects the first one
listed here is reported. -/
def validate (config : Config) : Except Error Unit := do
  if config.protocolInfo.isEmpty then
    throw (.invalidInput "protocol_info must not be empty")
  if config.replayWindow = 0 then
    throw (.invalidInput "replay_window must be positive")
  if config.maxTrackedGenerations = 0 then
    throw (.invalidInput "max_tracked_generations must be positive")
  if config.maxSkippedMessageKeys < config.maxSkip.toNat then
    throw (.invalidInput "max_skipped_message_keys must be at least max_skip")
  if config.chainRatchetThreshold = 0 ∨ config.chainRatchetThreshold = 0xFFFFFFFF then
    throw (.invalidInput "chain_ratchet_threshold must be between 1 and u32::MAX - 1")
  if config.criticalSaveAttempts = 0 then
    throw (.invalidInput "critical_save_attempts must be positive")

end Config

/-- The ratchet limits of the default settings. -/
def RatchetLimits.standard : RatchetLimits := Config.ratchetLimits {}

end RatchetMessaging
