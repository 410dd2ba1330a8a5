import Vls.Channel.Machine

/-! # What a run discloses

The events of a run are what the outside world gets from it, or could get: commitments validated and
signed, secrets handed out, revocations accepted, and ends of splices. A commitment that passed its
checks counts from then on, also where storing it failed. -/

namespace Vls

def secretIndex (commitmentNumber : U64) : BitVec 48 :=
  (initialCommitmentNumber - commitmentNumber).truncate 48

inductive Event where
  | holderValidated (commitment : HolderCommitment)
  | holderSigned (commitmentNumber : U64)
  | secretReleased (index : BitVec 48)
  | counterpartySigned (commitment : CounterpartyCommitment)
  | counterpartyRevoked (revokeNum : U64) (secret : SecretKey)
  | windowClosed
  deriving DecidableEq

namespace ChannelRequest

variable (ctx : Context) (env : Env) (s : Locked)

def holderCommitment : ChannelRequest → Option HolderCommitment
  | .validateHolderCommitmentTx tx outputWitscripts commitmentNumber feeratePerKw offeredHtlcs
      receivedHtlcs signatures =>
    (s.chan.checkHolderCommitmentTx ctx env s.state tx outputWitscripts commitmentNumber
      feeratePerKw offeredHtlcs receivedHtlcs signatures).toOption
  | .validateHolderCommitmentTxPhase2 fundingOutpoint commitmentNumber values signatures =>
    (s.chan.checkHolderCommitmentTxPhase2 ctx env s.state fundingOutpoint commitmentNumber values
      signatures).toOption
  | _ => none

def checkedCounterparty : ChannelRequest → Option CounterpartyCommitment
  | .signCounterpartyCommitmentTx tx outputWitscripts remotePerCommitmentPoint commitmentNumber
      feeratePerKw offeredHtlcs receivedHtlcs =>
    match s.chan.checkCounterpartyCommitmentTx ctx env s.state tx outputWitscripts
        remotePerCommitmentPoint commitmentNumber feeratePerKw offeredHtlcs receivedHtlcs with
    | .ok (.recomposed commitment) => some commitment
    | _ => none
  | .signCounterpartyCommitmentTxPhase2 fundingOutpoint remotePerCommitmentPoint commitmentNumber
      values =>
    (s.chan.checkCounterpartyCommitmentTxPhase2 ctx env s.state fundingOutpoint
      remotePerCommitmentPoint commitmentNumber values).toOption
  | _ => none

def counterpartyCommitment (request : ChannelRequest) : Option CounterpartyCommitment :=
  (request.checkedCounterparty ctx env s).filter fun commitment =>
    (Channel.counterpartySigned ctx s.chan.enforcementState commitment).toOption.isSome

/-- The commitment number whose secret a request asks for. A revocation names the commitment
    after the one it revokes. -/
def secretNumber : ChannelRequest → Option U64
  | .getPerCommitmentSecret commitmentNumber => some commitmentNumber
  | .getPerCommitmentSecretOrNone commitmentNumber => some commitmentNumber
  | .revokePreviousHolderCommitment newCurrentCommitmentNumber =>
    newCurrentCommitmentNumber.checkedSub 1
  | _ => none

def closesWindow : ChannelRequest → Bool
  | .confirmFundingLocked outpoint =>
    decide (s.chan.fundingLocked ≠ some outpoint ∧ outpoint = s.chan.setup.fundingOutpoint
      ∧ (s.chan.prevSetup.isSome ∨ s.chan.prevPrevSetup.isSome))
  | _ => false

def movesOn : ChannelRequest → Bool
  | .revokePreviousHolderCommitment newCurrentCommitmentNumber =>
    decide (newCurrentCommitmentNumber = s.chan.enforcementState.nextHolderCommitNum)
      && s.chan.enforcementState.nextHolderCommitInfo.isSome
  | _ => false

def closing : ChannelRequest → Option Channel.ClosableHolderCommitment
  | .signHolderCommitmentTxPhase2 commitmentNumber =>
    (s.chan.getHolderCommitmentForClose ctx commitmentNumber).toOption
  | .signHolderCommitmentTxForRecovery .. =>
    (s.chan.getLatestHolderCommitmentForClose ctx).toOption
  | _ => none

end ChannelRequest

def ChannelReply.disclosed : ChannelReply → Option SecretKey
  | .released _ oldSecret => oldSecret
  | .secret key => key
  | _ => none

namespace ChannelRequest

variable (ctx : Context) (env : Env) (s : Locked)

def events (request : ChannelRequest) (output : Except Status ChannelReply) : List Event :=
  match request, output with
  | .validateHolderCommitmentTx .., _ | .validateHolderCommitmentTxPhase2 .., _ =>
    (request.holderCommitment ctx env s).toList.map .holderValidated
  | .signCounterpartyCommitmentTx .., _ | .signCounterpartyCommitmentTxPhase2 .., _ =>
    (request.counterpartyCommitment ctx env s).toList.map .counterpartySigned
  | .confirmFundingLocked _, _ => if request.closesWindow s then [.windowClosed] else []
  | _, .error _ => []
  | .signHolderCommitmentTxPhase2 _, .ok _ | .signHolderCommitmentTxForRecovery .., .ok _ =>
    (request.closing ctx s).toList.map fun closing => .holderSigned closing.commitmentNumber
  | .validateCounterpartyRevocation revokeNum oldSecret, .ok _ =>
    [.counterpartyRevoked revokeNum oldSecret]
  | _, .ok reply =>
    (reply.disclosed.bind fun _ => request.secretNumber).toList.map fun commitmentNumber =>
      .secretReleased (secretIndex commitmentNumber)

end ChannelRequest

def events (ctx : Context) (step : ChannelStep) : List Event :=
  match step.input with
  | .others _ => []
  | .call env request => request.events ctx env step.before step.output

def trace (ctx : Context) (history : List ChannelStep) : List Event :=
  history.flatMap (events ctx)

theorem trace_cons {ctx} (step : ChannelStep) (history : List ChannelStep) :
    trace ctx (step :: history) = events ctx step ++ trace ctx history :=
  List.flatMap_cons

def signedCommitments (events : List Event) : List CounterpartyCommitment :=
  events.filterMap fun
    | .counterpartySigned commitment => some commitment
    | _ => none

theorem mem_signedCommitments {events commitment} :
    commitment ∈ signedCommitments events ↔ .counterpartySigned commitment ∈ events := by
  simp only [signedCommitments, List.mem_filterMap]
  constructor
  · rintro ⟨event, member, here⟩
    cases event <;> simp_all
  · intro member
    exact ⟨_, member, rfl⟩

theorem signedCommitments_append (events earlier : List Event) :
    signedCommitments (events ++ earlier) = signedCommitments events ++ signedCommitments earlier :=
  List.filterMap_append

end Vls
