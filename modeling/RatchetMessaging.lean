import RatchetMessaging.SecretBuffer
import RatchetMessaging.Config
import RatchetMessaging.Text.Base64
import RatchetMessaging.Text.Hex
import RatchetMessaging.Hash.Derivation
import RatchetMessaging.Cipher.GcmSiv
import RatchetMessaging.Curve.Montgomery
import RatchetMessaging.Curve.Signature
import RatchetMessaging.Provider.Builtin
import RatchetMessaging.Provider.Faulty
import RatchetMessaging.Key.SignedPreKey
import RatchetMessaging.Key.OneTimePreKey
import RatchetMessaging.Key.Disposable
import RatchetMessaging.Wire.Codec
import RatchetMessaging.Record.Session
import RatchetMessaging.Ratchet.Chain
import RatchetMessaging.Ratchet.ReplayWindow
import RatchetMessaging.Ratchet.SkippedKeys
import RatchetMessaging.Ratchet.Message
import RatchetMessaging.Connection.Establish
import RatchetMessaging.Connection.Exchange
import RatchetMessaging.Identity.Derivation
import RatchetMessaging.Identity.Upkeep
import RatchetMessaging.Identity.Snapshot
import RatchetMessaging.Handshake.Agreement
import RatchetMessaging.Messenger.Exchange
import RatchetMessaging.Messenger.Upkeep
import RatchetMessaging.Messenger.Trigger
import RatchetMessaging.Deployment
import RatchetMessaging.Record.Catalog
import RatchetMessaging.Inspection
import RatchetMessaging.Proofs.Computation
import RatchetMessaging.Proofs.OrderedMap
import RatchetMessaging.Proofs.Ratchet.SkippedKeys
import RatchetMessaging.Proofs.Ratchet.Reception
import RatchetMessaging.Proofs.Ratchet.Turn
import RatchetMessaging.Proofs.Connection.Exchange
import RatchetMessaging.Proofs.Ratchet.Snapshot
import RatchetMessaging.Proofs.Ratchet.Obtainable
import RatchetMessaging.Proofs.Connection.Acceptance
import RatchetMessaging.Proofs.Provider.Dependable
import RatchetMessaging.Proofs.Conversation.Ledger
import RatchetMessaging.Proofs.Conversation.Following
import RatchetMessaging.Proofs.Conversation.Caching
import RatchetMessaging.Proofs.Conversation.Reading
import RatchetMessaging.Proofs.Conversation.Availability
import RatchetMessaging.Proofs.Conversation.Basic
import RatchetMessaging.Proofs.Conversation.Sending
import RatchetMessaging.Proofs.Conversation.Coherence
import RatchetMessaging.Proofs.Conversation.Beginning
import RatchetMessaging.Proofs.Conversation.Play
import RatchetMessaging.Proofs.Conversation.AnyOrder
import RatchetMessaging.Proofs.Provider.Transparent
import RatchetMessaging.Proofs.Conversation.InOrder
import RatchetMessaging.Proofs.Messenger.BackgroundSave
import RatchetMessaging.Proofs.Messenger.Saving
import RatchetMessaging.Proofs.Provider.Steady
import RatchetMessaging.Proofs.Messenger.Exchange
import RatchetMessaging.Proofs.Key
import RatchetMessaging.Proofs.Connection.TurnFields
import RatchetMessaging.Proofs.Identity.Snapshot
import RatchetMessaging.Proofs.Messenger.Command
import RatchetMessaging.Proofs.Messenger.Operation
import RatchetMessaging.Proofs.Messenger.Opening
import RatchetMessaging.Proofs.Messenger.Move
import RatchetMessaging.Proofs.Messenger.Effect
import RatchetMessaging.Proofs.Messenger.Sample
import RatchetMessaging.Proofs.Messenger.StoredConnection
import RatchetMessaging.Proofs.Messenger.LateWrite
import RatchetMessaging.Proofs.Messenger.StoredIdentity
import RatchetMessaging.Proofs.Messenger.Drain
import RatchetMessaging.Proofs.Messenger.SendingPosition
import RatchetMessaging.Proofs.Messenger.PendingSave
import RatchetMessaging.Proofs.Ratchet.EvictionOrder
import RatchetMessaging.Proofs.Ratchet.ReplayBounds
import RatchetMessaging.Proofs.Connection.Tables
import RatchetMessaging.Proofs.Connection.Consistency
import RatchetMessaging.Proofs.Messenger.Authorship
import RatchetMessaging.Proofs.Messenger.Supersession
import RatchetMessaging.Proofs.Wire.Cursor
import RatchetMessaging.Proofs.Wire.Codec
import RatchetMessaging.Proofs.Record
import RatchetMessaging.Proofs.Ratchet.Restoration
import RatchetMessaging.Proofs.Connection.Restoration
import RatchetMessaging.Proofs.Provider.Agreeing
import RatchetMessaging.Proofs.Identity.Genuine
import RatchetMessaging.Proofs.Messenger.IdentitySteps
import RatchetMessaging.Proofs.Handshake.Encoding
import RatchetMessaging.Proofs.Handshake.Agreement
import RatchetMessaging.Proofs.Messenger.Handshake
import RatchetMessaging.Proofs.Ratchet.Recall
import RatchetMessaging.Proofs.Connection.LateDelivery
import RatchetMessaging.Proofs.Conversation.OneSided
import RatchetMessaging.Proofs.Ratchet.Message
import RatchetMessaging.Proofs.Provider.Compositional
import RatchetMessaging.Proofs.Provider.Calls
import RatchetMessaging.Proofs.Conversation.Authenticity
import RatchetMessaging.Proofs.Connection.Portable
import RatchetMessaging.Proofs.Messenger.Keeping
import RatchetMessaging.Proofs.Messenger.Continuity
import RatchetMessaging.Proofs.Messenger.Upholding
import RatchetMessaging.Proofs.Messenger.Tending
import RatchetMessaging.Proofs.Messenger.Restart
import RatchetMessaging.Proofs.Identity.Replenishment
import RatchetMessaging.Proofs.Messenger.AwaitedWrites
import RatchetMessaging.Proofs.Messenger.FailedHandshake
import RatchetMessaging.Proofs.Provider.Imitation
import RatchetMessaging.Proofs.Messenger.Retry
import RatchetMessaging.Proofs.Messenger.Soundness
import RatchetMessaging.Proofs.Messenger.ForcedTurn
import RatchetMessaging.Proofs.Ratchet.Refusal
import RatchetMessaging.Proofs.Identity.RoundTrip
import RatchetMessaging.Proofs.Admission
import RatchetMessaging.Proofs.Identity.Admission
import RatchetMessaging.Proofs.Connection.Admission
import RatchetMessaging.Proofs.Provider.Queries
import RatchetMessaging.Proofs.Ratchet.StagedReception
import RatchetMessaging.Proofs.Ratchet.CacheQueue
import RatchetMessaging.Proofs.Ratchet.PassedKeys
import RatchetMessaging.Proofs.Connection.PassedKeys
import RatchetMessaging.Proofs.Ratchet.SendingSide
import RatchetMessaging.Proofs.Connection.SentHeaders
import RatchetMessaging.Proofs.Ratchet.RecordingOrder
import RatchetMessaging.Proofs.Ratchet.ReadingOrder
import RatchetMessaging.Proofs.Connection.DeliveryOrder
import RatchetMessaging.Proofs.Ratchet.QueueRefinement
import RatchetMessaging.Proofs.Connection.KeyPaths
import RatchetMessaging.Proofs.Identity.KeyOperations
import RatchetMessaging.Proofs.Identity.PreKeyNumbers
import RatchetMessaging.Proofs.Identity.Additions
import RatchetMessaging.Proofs.Provider.Plans
import RatchetMessaging.Proofs.Connection.ExactArithmetic
import RatchetMessaging.Proofs.Connection.ReceivingWork
import RatchetMessaging.Proofs.Messenger.Journal
import RatchetMessaging.Proofs.Messenger.SaveOrder
import RatchetMessaging.Proofs.Messenger.SaveRun
import RatchetMessaging.Proofs.Messenger.Timeline
import RatchetMessaging.Proofs.Messenger.Punctuality
import RatchetMessaging.Proofs.Messenger.SaveSchedule
import RatchetMessaging.Proofs.Messenger.SaveRetries
import RatchetMessaging.Proofs.Messenger.Coalescing
import RatchetMessaging.Proofs.Identity.DerivedKeys
import RatchetMessaging.Proofs.Identity.Derivation
import RatchetMessaging.Proofs.Identity.NumberDraws
