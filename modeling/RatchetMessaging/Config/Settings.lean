import RatchetMessaging.Config
import RatchetMessaging.Wire.Tree

/-!
Contract: settings by name.

Owns: the name of every setting, the reading of named settings over the default ones, and the
listing of all settings.

Does not own: which settings are usable.
-/

namespace RatchetMessaging

open Wire

/-- One setting: how it is shown, and how it is replaced by what a tree shows. -/
structure Setting where
  name : String
  schema : Schema
  view : Config → Tree
  fill : Tree → Config → Option Config

namespace Setting

/-- A setting that is a number of thirty-two bits. -/
def word (name : String) (get : Config → UInt32) (set : UInt32 → Config → Config) : Setting where
  name := name
  schema := .word
  view config := .word (get config)
  fill tree config :=
    match tree with
    | .word value => some (set value config)
    | _ => none

/-- A setting that is a count. -/
def count (name : String) (get : Config → Nat) (set : Nat → Config → Config) : Setting where
  name := name
  schema := .count
  view config := .count (get config)
  fill tree config :=
    match tree with
    | .count value => some (set value config)
    | _ => none

/-- A setting that is a byte string. -/
def bytes (name : String) (get : Config → Bytes) (set : Bytes → Config → Config) : Setting where
  name := name
  schema := .bytes
  view config := .bytes (get config)
  fill tree config :=
    match tree with
    | .bytes value => some (set value config)
    | _ => none

end Setting

namespace RatchetLimits

/-- The settings of ratchet connections. -/
def settings : List Setting :=
  [.word "max_skip" Config.maxSkip (fun value config => { config with maxSkip := value }),
    .count "max_skipped_message_keys" Config.maxSkippedMessageKeys
      (fun value config => { config with maxSkippedMessageKeys := value }),
    .word "replay_window" Config.replayWindow
      (fun value config => { config with replayWindow := value }),
    .count "max_tracked_generations" Config.maxTrackedGenerations
      (fun value config => { config with maxTrackedGenerations := value }),
    .word "chain_ratchet_threshold" Config.chainRatchetThreshold
      (fun value config => { config with chainRatchetThreshold := value })]

end RatchetLimits

namespace Config

/-- The settings that ratchet connections do not use. -/
def engineSettings : List Setting :=
  [.bytes "protocol_info" Config.protocolInfo
      (fun value config => { config with protocolInfo := value }),
    .count "one_time_pre_key_count" Config.oneTimePreKeyCount
      (fun value config => { config with oneTimePreKeyCount := value }),
    .count "min_one_time_pre_keys" Config.minOneTimePreKeys
      (fun value config => { config with minOneTimePreKeys := value }),
    .word "critical_save_attempts" Config.criticalSaveAttempts
      (fun value config => { config with criticalSaveAttempts := value }),
    .count "critical_save_backoff_ms" Config.criticalSaveBackoff
      (fun value config => { config with criticalSaveBackoff := value }),
    .count "save_debounce_ms" Config.saveDebounce
      (fun value config => { config with saveDebounce := value })]

/-- All settings. -/
def settings : List Setting := engineSettings ++ RatchetLimits.settings

/-- What trees can name settings. -/
def schema : Schema := .record (settings.map (fun setting => (setting.name, setting.schema)))

/-- Replace a setting, if the tree names it. -/
def override (tree : Tree) (config : Config) (setting : Setting) : Option Config :=
  match tree.part setting.name with
  | .absent => some config
  | part => setting.fill part config

/-- The default settings, with those replaced that a tree names. -/
def ofTree? (tree : Tree) : Option Config := settings.foldlM (override tree) {}

/-- Some settings by name. -/
def viewOf (config : Config) (settings : List Setting) : List (String × Tree) :=
  settings.map (fun setting => (setting.name, setting.view config))

/-- All settings by name; those of ratchet connections stand together. -/
def view (config : Config) : Tree :=
  .record (("limits", .record (viewOf config RatchetLimits.settings)) ::
    viewOf config engineSettings)

end Config

end RatchetMessaging
