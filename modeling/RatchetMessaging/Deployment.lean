import RatchetMessaging.Messenger.Upkeep
import RatchetMessaging.Messenger.Exchange

/-!
Contract: several parties and volumes under one clock.

Owns: parties by name, volumes by name, the operations of one party while the background
saves of all others go on, and processes that were given up but still have saves to finish.
All of them wait by the timer of thirty years.

Does not own: what an operation does.
-/

namespace RatchetMessaging

/-- A process in a deployment. A process that was given up has no name. -/
structure Party where
  name : Option String
  volumeName : String
  process : Process

/-- Parties and volumes under one clock, with one provider. -/
structure Deployment (σ : Type) where
  crypto : σ
  clock : Nat := 0
  volumes : List (String × Volume) := []
  parties : List Party := []

namespace Deployment

variable {σ α : Type}

/-- The volume of a name; none if there is no such volume. -/
def volume? (deployment : Deployment σ) (name : String) : Option Volume :=
  deployment.volumes.lookup name

/-- The volume of a name. A volume that was never mentioned is blank. -/
def volume (deployment : Deployment σ) (name : String) : Volume :=
  (deployment.volume? name).getD {}

/-- Replace the value of a name in a list of named values, or add it at the end. -/
def setNamed (name : String) (value : α) : List (String × α) → List (String × α)
  | [] => [(name, value)]
  | entry :: rest =>
    if entry.1 = name then (name, value) :: rest else entry :: setNamed name value rest

/-- Replace the volume of a name. -/
def setVolume (name : String) (volume : Volume) (deployment : Deployment σ) : Deployment σ :=
  { deployment with volumes := setNamed name volume deployment.volumes }

/-- The party of a name. -/
def party? (deployment : Deployment σ) (name : String) : Option Party :=
  deployment.parties.find? (fun party => party.name = some name)

/-- Give processes back to the parties on a volume, in order. -/
def giveBack (volumeName : String) : List Process → List Party → List Party
  | process :: rest, party :: parties =>
    if party.volumeName = volumeName then
      { party with process := process } :: giveBack volumeName rest parties
    else party :: giveBack volumeName (process :: rest) parties
  | _, parties => parties

/-- Let the background saves on one volume take the steps due before `limit`. -/
def advanceVolume (limit : Nat) (deployment : Deployment σ) (name : String) : Deployment σ :=
  let here := deployment.parties.filter (fun party => party.volumeName = name)
  match here.map Party.process with
  | [] => deployment
  | own :: others =>
    let site : Site := ⟨deployment.volume name, own, others⟩
    let (_, site) := site.run (fun _ => false) limit deployment.clock
    { deployment.setVolume name site.volume with
      parties := giveBack name (site.own :: site.others) deployment.parties }

/-- Let the background saves on all volumes but one take the steps due before `limit`. -/
def advanceOthers (limit : Nat) (except : Option String) (deployment : Deployment σ) :
    Deployment σ :=
  let names := (deployment.volumes.map Prod.fst).filter (fun name => some name != except)
  names.foldl (advanceVolume limit) deployment

/-- Let time pass until a moment, however far away. -/
def passUntil (moment : Nat) (deployment : Deployment σ) : Deployment σ :=
  { deployment.advanceOthers moment none with clock := moment }

/-- Let a wait pass. -/
def sleep (duration : Nat) (deployment : Deployment σ) : Deployment σ :=
  deployment.passUntil (waitEnd deployment.clock duration .thirtyYears)

/-- Watch for a signal that does not fire. Only the patience of the watcher bounds the time
that passes. -/
def watch (patience : Nat) (deployment : Deployment σ) : Deployment σ :=
  deployment.passUntil (deployment.clock + patience)

/-- The node of a party. -/
def nodeOf (party : Party) (deployment : Deployment σ) : Node σ where
  volume := deployment.volume party.volumeName
  own := party.process
  others := (deployment.parties.filter (fun other =>
    other.volumeName = party.volumeName && other.name != party.name)).map Party.process
  crypto := deployment.crypto
  clock := deployment.clock

/-- Take a node back that has been at work for a party. -/
def takeBack (party : Party) (node : Node σ) (deployment : Deployment σ) : Deployment σ :=
  let others := deployment.parties.filter (fun other => other.name != party.name)
  let deployment := { deployment.setVolume party.volumeName node.volume with
    crypto := node.crypto
    parties := { party with process := node.own } ::
      giveBack party.volumeName node.others others }
  { deployment.advanceOthers node.horizon (some party.volumeName) with clock := node.clock }

/-- An operation of a party; none if there is no such party. -/
def run (name : String) (operation : Operation σ α) (deployment : Deployment σ) :
    Option (Except Error α × Deployment σ) :=
  (deployment.party? name).map (fun party =>
    match operation (deployment.nodeOf party) with
    | .ok value node => (.ok value, deployment.takeBack party node)
    | .error failure node => (.error failure, deployment.takeBack party node))

/-- A computation that calls the provider, outside of any party. -/
def calling (call : Crypto σ α) (deployment : Deployment σ) : Except Error α × Deployment σ :=
  match call deployment.crypto with
  | .ok value after => (.ok value, { deployment with crypto := after })
  | .error failure after => (.error failure, { deployment with crypto := after })

/-- Let a messenger run under a name. A process that ran under it before is given up, but
finishes its background saves. -/
def launch (name volumeName : String) (messenger : Messenger) (deployment : Deployment σ) :
    Deployment σ :=
  let parties := deployment.parties.map (fun party =>
    if party.name = some name then { party with name := none } else party)
  let process : Process := { messenger := messenger, timer := .thirtyYears }
  { deployment.setVolume volumeName (deployment.volume volumeName) with
    parties := ⟨some name, volumeName, process⟩ :: parties }

end Deployment

end RatchetMessaging
