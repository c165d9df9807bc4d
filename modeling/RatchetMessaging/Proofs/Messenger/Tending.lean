import RatchetMessaging.Proofs.Messenger.Upholding

/-!
Contract: every command leaves each live connection stored, or about to be.

Owns:
- the steps of a process whose volume takes every write and whose caller does not withdraw: each
  keeps the site tended, whether it succeeds or fails;
- the commands, but for a turn that is asked for without a message, and runs of them.

Does not own: what a restart makes of the volume.
-/

namespace RatchetMessaging

variable {σ : Type} {provider : Provider σ} {primitives : Primitives} {limits : RatchetLimits}
  {held : Volume} {connectionId : UInt32} {connection : Connection}

namespace Node

variable {node : Node σ}

/-! ### Saves -/

end Node

/-! ### Commands -/

/-- The caller neither withdraws nor asks for a turn without a message. -/
def Command.Plain : Command σ → Prop
  | saveIdentity signal | initiate _ _ signal | accept _ _ signal | encrypt _ _ _ signal
  | decrypt _ _ _ signal | rotate _ signal => signal = .never
  | forceRatchet _ => False
  | restore _ | close _ | flush | wait _ => True

theorem Command.Plain.gives {command : Command σ} (plain : command.Plain) :
    command.Gives .never := by
  cases command <;> exact plain

end RatchetMessaging
