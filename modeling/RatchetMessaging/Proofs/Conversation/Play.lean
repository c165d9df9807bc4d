import RatchetMessaging.Proofs.Conversation.Basic

/-!
Contract: conversations that are computed stroke by stroke.

Owns:
- `Stroke`, one thing that a side does, and the conversation that it leaves;
- `Conversation.play?`, the conversation after strokes that all succeed and are all admitted;
- `Conversation.play?_induction`: what admitted strokes preserve holds of what is played.

Does not own: which strokes are admitted.
-/

namespace RatchetMessaging

variable {σ : Type}

/-- What a side does in a conversation. -/
inductive Stroke (σ : Type) where
  /-- It sends a message. -/
  | send (side : Side) (plaintext associatedData : Bytes) (crypto : σ)
  /-- A message arrives, told by its number among those that the peer has sent. -/
  | receive (side : Side) (number : Nat) (crypto : σ)

namespace Conversation

/-- What a stroke stages, and the conversation after it, unless the side refuses. -/
def stroke? (provider : Provider σ) (conversation : Conversation) :
    Stroke σ → Option (Staged × Conversation)
  | .send side plaintext associatedData crypto =>
    match (conversation side).connection.stageEncrypt provider plaintext associatedData crypto with
    | .ok (message, staged) _ =>
      some (staged, Function.update conversation side
        ((conversation side).afterSending ⟨message, plaintext, associatedData⟩ staged))
    | .error _ _ => none
  | .receive side number crypto =>
    match (conversation side.other).sent[number]? with
    | none => none
    | some sent =>
      match (conversation side).connection.stageDecrypt provider sent.message sent.associatedData
        crypto with
      | .ok (_, staged) _ =>
        some (staged, Function.update conversation side
          ((conversation side).afterReceiving sent.message.header staged))
      | .error _ _ => none

/-- The conversation after some strokes. -/
def play? (provider : Provider σ) (admits : Conversation → Stroke σ → Staged → Bool) :
    List (Stroke σ) → Conversation → Option Conversation
  | [], conversation => some conversation
  | stroke :: rest, conversation =>
    match conversation.stroke? provider stroke with
    | none => none
    | some (staged, next) =>
      if admits conversation stroke staged then play? provider admits rest next else none

variable {provider : Provider σ} {conversation next last : Conversation} {side : Side}
  {staged : Staged} {crypto : σ}

theorem stroke?_send_eq_some {plaintext associatedData : Bytes}
    (sends : conversation.stroke? provider (.send side plaintext associatedData crypto) =
      some (staged, next)) :
    ∃ message after, (conversation side).connection.stageEncrypt provider plaintext associatedData
        crypto = .ok (message, staged) after ∧
      next = Function.update conversation side
        ((conversation side).afterSending ⟨message, plaintext, associatedData⟩ staged) := by
  simp only [stroke?] at sends
  split at sends
  · rename_i message _ after encrypted
    cases sends
    exact ⟨message, after, encrypted, rfl⟩
  · cases sends

theorem stroke?_receive_eq_some {number : Nat}
    (receives : conversation.stroke? provider (.receive side number crypto) =
      some (staged, next)) :
    ∃ sent plaintext after, (conversation side.other).sent[number]? = some sent ∧
      (conversation side).connection.stageDecrypt provider sent.message sent.associatedData
        crypto = .ok (plaintext, staged) after ∧
      next = Function.update conversation side
        ((conversation side).afterReceiving sent.message.header staged) := by
  simp only [stroke?] at receives
  split at receives
  · cases receives
  · rename_i sent isSent
    split at receives
    · rename_i plaintext _ after decrypted
      cases receives
      exact ⟨sent, plaintext, after, isSent, decrypted, rfl⟩
    · cases receives

theorem play?_induction {admits : Conversation → Stroke σ → Staged → Bool}
    {holds : Conversation → Prop}
    (preserves : ∀ conversation stroke staged next, holds conversation →
      conversation.stroke? provider stroke = some (staged, next) →
      admits conversation stroke staged = true → holds next)
    {strokes : List (Stroke σ)} (begins : holds conversation)
    (played : play? provider admits strokes conversation = some last) : holds last := by
  induction strokes generalizing conversation with
  | nil =>
    cases played
    exact begins
  | cons stroke rest inductionHypothesis =>
    unfold play? at played
    split at played
    · cases played
    · rename_i staged next leads
      split at played
      · rename_i admitted
        exact inductionHypothesis (preserves _ _ _ _ begins leads admitted) played
      · cases played

end Conversation

end RatchetMessaging
