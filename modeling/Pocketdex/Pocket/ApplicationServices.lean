import Mathlib.Data.List.Dedup
import Pocketdex.Base.Rely
import Pocketdex.Base.Versions
import Pocketdex.Pocket.Applications

/-! The services of applications: new rows are inserted while the older ones are closed. -/

namespace Pocketdex

/-- A call of the stake handler or of the claim handler with its messages. -/
inductive StakeCall where
  | stake (messages : List (CosmosMessage × MsgStakeApplication))
  | claim (messages : List (CosmosMessage × MsgClaimMorseApplication))

/-- The application of each message of a call, with the services it lists. -/
def StakeCall.listed : StakeCall → List (String × List String)
  | .stake messages => messages.map fun (_, decoded) =>
    (decoded.address, decoded.services.map ApplicationServiceConfig.serviceId)
  | .claim messages => messages.map fun (_, decoded) =>
    (decoded.shannonDestAddress,
      decoded.serviceConfig.toList.map ApplicationServiceConfig.serviceId)

/-- Handling a call, as far as the service rows it inserts are concerned. -/
def StakeCall.appService : StakeCall → ApplicationProgram (List ApplicationServiceProps)
  | .stake messages => handleAppMsgStake messages >>= fun docs => return docs.services
  | .claim messages => handleMsgClaimMorseApplication messages >>= fun docs => return docs.services

/-- A set made from one text holds the characters of the text. -/
def setOfText (text : String) : List String := (text.toList.map String.singleton).dedup

/-- Adding the services of a message to those collected for its application. -/
def collectServices (appServices : Dict String (List String)) (address : String)
    (serviceIds : List String) : Dict String (List String) :=
  serviceIds.foldl (fun appServices serviceId =>
    match appServices.get address with
    | none => appServices.set address (setOfText serviceId)
    | some services => appServices.set address (services.insert serviceId)) appServices

/-- The services collected over the messages of a call, by application. -/
def collectAppServices (listed : List (String × List String)) : Dict String (List String) :=
  listed.foldl (fun appServices message => collectServices appServices message.1 message.2)
    Dict.empty

/-- Whether the update closes a row: without any condition it selects none. -/
def markDeleteOr (appServices : Dict String (List String)) (row : ApplicationServiceProps) : Bool :=
  appServices.entries.any fun (address, services) =>
    row.applicationId = address && row.serviceId ∉ services

/-- The two writes a call makes to the service rows. -/
inductive ServiceWrite where
  | bulkCreate (appService : List ApplicationServiceProps)
  | update (appServices : Dict String (List String))

/-- What a write does to the rows. -/
def ServiceWrite.perform (height : ℕ) :
    ServiceWrite → List (Row ApplicationServiceProps) → List (Row ApplicationServiceProps)
  | bulkCreate appService, rows => storeBulkCreate ApplicationServiceProps.id height appService rows
  | update appServices, rows => closeWhere (markDeleteOr appServices) height rows

/-- The writes of a call are started together. -/
def StakeCall.writes (call : StakeCall) (appService : List ApplicationServiceProps) :
    Task ServiceWrite :=
  Task.par (Task.step (.bulkCreate appService))
    (Task.step (.update (collectAppServices call.listed)))

/-- The rows of a call whose writes took effect in the given order. -/
def serviceRows (height : ℕ) (order : List ServiceWrite)
    (rows : List (Row ApplicationServiceProps)) : List (Row ApplicationServiceProps) :=
  performed (ServiceWrite.perform height) order rows

/-- The services of an application whose rows are open at a height. -/
def openServices (height : ℕ) (address : String) (rows : List (Row ApplicationServiceProps)) :
    List String :=
  (rows.filter fun row => row.openAt height && row.data.applicationId = address).map
    fun row => row.data.serviceId

/-- The services the messages list for an application. -/
def listedServices (address : String) (listed : List (String × List String)) : List String :=
  (listed.filter fun message => message.1 = address).flatMap Prod.snd

end Pocketdex
