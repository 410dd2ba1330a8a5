import Vls.Channel.Eras
import Vls.Channel.Toy

/-! # The slots of the holder's commitments

The current commitment of the holder and the one waiting to become current, with the tag that names
their funding. Here is when the current slot always holds what the counterparty signed for the
current funding. -/

namespace Vls

open Channel

variable {chan : Channel} {ctx : Context} {s : Locked} {events : List Event} {n : U64}
  {info2 : CommitmentInfo2} {signatures : CommitmentSignatures}

def Channel.holderTx (ctx : Context) (chan : Channel) (commitmentNumber : U64)
    (info2 : CommitmentInfo2) : CommitmentTransaction :=
  chan.makeHolderCommitmentTxWithSetup ctx chan.setup commitmentNumber
    (chan.getPerCommitmentPointUnchecked ctx commitmentNumber) info2.feeratePerKw
    info2.toBroadcasterValueSat info2.toCountersignerValueSat
    (htlcsInfo2ToOic info2.offeredHtlcs info2.receivedHtlcs)

/-- A commitment was validated for the current funding, and its signatures fit the transaction
    that is recomposed there. -/
structure Verified (ctx : Context) (chan : Channel) (events : List Event) (commitmentNumber : U64)
    (info2 : CommitmentInfo2) (signatures : CommitmentSignatures) : Prop where
  validated : .holderValidated ⟨chan.setup, commitmentNumber, info2, signatures⟩ ∈ events
  valid : chan.checkHolderTxSignatures ctx chan.setup
    (chan.getPerCommitmentPointUnchecked ctx commitmentNumber)
    (chan.makeHolderTxKeys ctx (chan.getPerCommitmentPointUnchecked ctx commitmentNumber))
    info2.feeratePerKw signatures (chan.holderTx ctx commitmentNumber info2) = .ok ()

section verified

variable {ctx : Context} {chan chan' : Channel} {events : List Event} {commitmentNumber : U64}
  {info2 : CommitmentInfo2} {signatures : CommitmentSignatures}

theorem checkHtlcSignatures_congr (setup : chan'.setup = chan.setup) (txkeys : TxCreationKeys)
    (feeratePerKw : U32) (txid : BitVec 256) (htlcPubkey : PublicKey) (sigs : List Signature)
    (htlcs : List HTLCOutputInCommitment) (ndx : Nat) :
    chan'.checkHtlcSignatures ctx txkeys feeratePerKw txid htlcPubkey sigs htlcs ndx
      = chan.checkHtlcSignatures ctx txkeys feeratePerKw txid htlcPubkey sigs htlcs ndx := by
  induction htlcs generalizing ndx with
  | nil => rfl
  | cons htlc rest ih => simp only [checkHtlcSignatures, setup, ih]

theorem Verified.congr (verified : Verified ctx chan events commitmentNumber info2 signatures)
    (setup : chan'.setup = chan.setup) (keys : chan'.keys = chan.keys) (newer : List Event) :
    Verified ctx chan' (newer ++ events) commitmentNumber info2 signatures := by
  refine ⟨?_, ?_⟩
  · rw [setup]
    exact List.mem_append_right newer verified.validated
  · rw [← verified.valid]
    simp only [checkHolderTxSignatures, commitmentSighash, holderTx, makeHolderTxKeys,
      makeHolderCommitmentTxWithSetup, makeChannelParametersWithSetup,
      getPerCommitmentPointUnchecked, checkHtlcSignatures_congr setup, setup, keys]
    rfl

theorem Channel.HolderChecked.verified {env commitment}
    (checked : HolderChecked ctx env s commitment)
    (same : commitment.view.fundingOutpoint = s.chan.setup.fundingOutpoint) (earlier : List Event) :
    Verified ctx s.chan (.holderValidated commitment :: earlier) commitment.commitmentNumber
      commitment.info2 commitment.signatures := by
  have view : commitment.view = s.chan.setup := checked.isView.eq_setup same
  have signed := checked.signed
  obtain ⟨view', number, info2, signatures⟩ := commitment
  obtain rfl : view' = s.chan.setup := view
  exact ⟨List.mem_cons_self, signed⟩

theorem recomposeHolderCommitmentTx_transaction {recomposed}
    (ok : chan.recomposeHolderCommitmentTx ctx commitmentNumber info2 = .ok recomposed) :
    recomposed.1.transaction = (chan.holderTx ctx commitmentNumber info2).transaction := by
  simp only [recomposeHolderCommitmentTx, Result.bind_eq_ok, getPerCommitmentPoint_eq_ok,
    Except.ok.injEq] at ok
  obtain ⟨_, ⟨_, rfl⟩, rfl⟩ := ok
  rfl

theorem Verified.verifies (verified : Verified ctx chan events commitmentNumber info2 signatures) :
    ctx.prims.verifyEcdsa
      (chan.commitmentSighash ctx chan.setup (chan.holderTx ctx commitmentNumber info2).transaction)
      signatures.commitmentSig chan.setup.counterpartyPoints.fundingPubkey = true := by
  have valid := verified.valid
  simp only [checkHolderTxSignatures, Result.err_bind, Result.ite_err_eq_ok] at valid
  simpa using valid.1

end verified

/-- Once a commitment is current, the funding is not replaced and the slot overwritten only by its
    successor, and a commitment becomes current only on the current funding. -/
def KeepsSlots (s : Locked) : ChannelInput → Prop
  | .others _ => True
  | .call _ request =>
    (s.chan.slots.next ≠ 0 → request.splices s = false ∧ request.closesWindow s = false
      ∧ request.reactivates s = false)
      ∧ (request.promotes s → s.chan.slots.funding = some s.chan.setup.fundingOutpoint)

instance (s : Locked) : (input : ChannelInput) → Decidable (KeepsSlots s input)
  | .others _ | .call .. => by unfold KeepsSlots; infer_instance

/-- The slots hold what was validated for the current funding. -/
structure SlotsKept (ctx : Context) (chan : Channel) (slots : HolderSlots) (events : List Event) :
    Prop where
  waiting : ∀ info2 signatures, slots.waiting = some (info2, signatures) →
    slots.funding = some chan.setup.fundingOutpoint →
    Verified ctx chan events slots.next info2 signatures
  current : ∀ n, slots.next = n + 1 → slots.next ≠ 0 → ∃ info2 signatures,
    slots.current = some info2 ∧ slots.signatures = some signatures
      ∧ Verified ctx chan events n info2 signatures

theorem SlotsKept.of_fresh (fresh : Fresh s) : SlotsKept ctx s.chan s.chan.slots [] := by
  have slots : s.chan.slots = _ := congrArg Eras.holder fresh.eras
  rw [slots]
  refine ⟨?_, fun n _ nonzero => absurd rfl nonzero⟩
  rintro _ _ ⟨⟩

section step

variable {ctx : Context} {s : Locked} {chan chan' : Channel} {slots : HolderSlots}
  {input : ChannelInput} {events earlier : List Event}

theorem SlotsKept.later (kept : SlotsKept ctx chan slots earlier)
    (setup : chan'.setup = chan.setup) (keys : chan'.keys = chan.keys) (events : List Event) :
    SlotsKept ctx chan' slots (events ++ earlier) := by
  refine ⟨?_, ?_⟩
  · intro info2 signatures waiting funding
    rw [setup] at funding
    exact (kept.waiting info2 signatures waiting funding).congr setup keys events
  · intro n number nonzero
    obtain ⟨info2, signatures, populated, signed, verified⟩ := kept.current n number nonzero
    exact ⟨info2, signatures, populated, signed, verified.congr setup keys events⟩

theorem SlotsKept.step {eras'} (kept : SlotsKept ctx s.chan s.chan.slots earlier)
    (keeps : KeepsSlots s input) (change : EraChange ctx s input events eras')
    (setup : chan'.setup = eras'.setup) (keys : chan'.keys = eras'.keys) :
    SlotsKept ctx chan' eras'.holder (events ++ earlier) := by
  cases change with
  | none | signed | revoked | settled => exact kept.later setup keys _
  | validated asked checked number =>
    refine ⟨?_, (kept.later setup keys _).current⟩
    rintro info2 signatures ⟨⟩ funding
    have same := (Option.some.inj funding).trans (congrArg (·.fundingOutpoint) setup)
    have verified := checked.verified same earlier
    rw [number] at verified
    exact verified.congr setup keys []
  | dropped =>
    refine ⟨?_, (kept.later setup keys _).current⟩
    rintro _ _ ⟨⟩
  | promoted promotes pending quiet =>
    rename_i info2 signatures
    have verified := kept.waiting info2 signatures pending (keeps.2 promotes)
    refine ⟨?_, ?_⟩
    · rintro _ _ ⟨⟩
    · intro n number _
      obtain rfl : s.chan.slots.next = n := by
        have := congrArg (· - 1) number
        bv_omega
      exact ⟨info2, signatures, rfl, rfl, verified.congr setup keys events⟩
  | reactivated reactivates second =>
    have again := (keeps.1 (by rw [second]; decide)).2.2
    cases again.symm.trans reactivates
  | spliced splices =>
    have zero : s.chan.slots.next = 0 := by
      by_contra nonzero
      cases (keeps.1 nonzero).1.symm.trans splices
    refine ⟨?_, fun n _ nonzero => absurd zero nonzero⟩
    rintro _ _ ⟨⟩
  | locked closes =>
    have zero : s.chan.slots.next = 0 := by
      by_contra nonzero
      cases (keeps.1 nonzero).2.1.symm.trans closes
    exact ⟨(kept.later setup keys _).waiting, fun n _ nonzero => absurd zero nonzero⟩

end step

theorem getHolderCommitmentForClose_current (strict : ctx.validator.Strict)
    (number : chan.slots.next = n + 1) (current : chan.slots.current = some info2)
    (signed : chan.slots.signatures = some signatures) :
    chan.getHolderCommitmentForClose ctx n = .ok ⟨n, info2, signatures⟩ := by
  have other : n ≠ chan.enforcementState.nextHolderCommitNum := by
    have number : chan.enforcementState.nextHolderCommitNum = n + 1 := number
    bv_omega
  have info := (Validator.getCurrentHolderCommitmentInfo_eq_ok strict).mpr ⟨number.symm, current⟩
  have signed : chan.enforcementState.currentCounterpartySignatures = some signatures := signed
  simp only [getHolderCommitmentForClose, if_neg other, info, signed]
  rfl

theorem Verified.closes (strict : ctx.validator.Strict) (number : s.chan.slots.next = n + 1)
    (current : s.chan.slots.current = some info2)
    (signed : s.chan.slots.signatures = some signatures)
    (verified : Verified ctx s.chan events n info2 signatures) (env : Env) :
    Call.Ends (signHolderCommitmentTxPhase2 ctx env n) s
      (fun sig _ => ∃ tx,
        sig = s.chan.keys.signHolderCommitment ctx.prims (s.chan.makeChannelParameters ctx) tx
        ∧ ctx.prims.verifyEcdsa (s.chan.commitmentSighash ctx s.chan.setup tx.transaction)
          signatures.commitmentSig s.chan.setup.counterpartyPoints.fundingPubkey = true)
      (fun fault _ => ∀ message, fault ≠ .panic message) := by
  have closing := getHolderCommitmentForClose_current strict number current signed
  simp only [signHolderCommitmentTxPhase2, Call.ends_bind, Call.ends_get, Call.ends_lift, closing,
    Locked.ends_modifyEstate, Call.ends_pure, Except.ok.injEq, forall_eq', reduceCtorEq,
    false_implies, implies_true, and_true]
  refine ⟨?_, ?_⟩
  · intro recomposed ok
    refine ⟨fun _ _ => ⟨recomposed.1, rfl, ?_⟩, ?_⟩
    · rw [recomposeHolderCommitmentTx_transaction ok]
      exact verified.verifies
    · rintro fault failed message rfl
      simp only [persist] at failed
      split at failed
      · cases failed
      · cases failed
  · rintro fault failed message rfl
    simp only [recomposeHolderCommitmentTx, getPerCommitmentPoint] at failed
    split at failed
    · cases failed
    · cases failed

/-- In a run that keeps the slots, the current slot holds a commitment that was validated for the
    current funding, and closing with it does not panic and signs what the counterparty signed. -/
theorem current_slot_closable {ctx : Context} (strict : ctx.validator.Strict) {start s : Locked}
    {history : List ChannelStep} (fresh : Fresh start)
    (run : (channelMachine ctx).Run start history s)
    (keeps : Machine.Meets (fun _ => KeepsSlots) history) (n : U64)
    (number : s.chan.enforcementState.nextHolderCommitNum = n + 1)
    (nonzero : s.chan.enforcementState.nextHolderCommitNum ≠ 0) :
    ∃ info2 signatures,
      s.chan.enforcementState.currentHolderCommitInfo = some info2
      ∧ s.chan.enforcementState.currentCounterpartySignatures = some signatures
      ∧ .holderValidated ⟨s.chan.setup, n, info2, signatures⟩ ∈ trace ctx history
      ∧ ∀ env,
        (∀ message s', signHolderCommitmentTxPhase2 ctx env n s ≠ .error (.panic message) s')
        ∧ ∀ sig s', signHolderCommitmentTxPhase2 ctx env n s = .ok sig s' → ∃ tx,
          sig = s.chan.keys.signHolderCommitment ctx.prims (s.chan.makeChannelParameters ctx) tx
          ∧ ctx.prims.verifyEcdsa (s.chan.commitmentSighash ctx s.chan.setup tx.transaction)
            signatures.commitmentSig s.chan.setup.counterpartyPoints.fundingPubkey = true := by
  have kept : SlotsKept ctx s.chan s.chan.slots (trace ctx history) := by
    refine run_inv strict (fun _ => KeepsSlots)
      (fun events s => SlotsKept ctx s.chan s.chan.slots events) run keeps (.of_fresh fresh) ?_
    intro earlier s input events s' kept keeps effect
    exact kept.step keeps (era_change strict effect) rfl rfl
  obtain ⟨info2, signatures, current, signed, verified⟩ := kept.current n number nonzero
  refine ⟨info2, signatures, current, signed, verified.validated, ?_⟩
  intro env
  have ends := verified.closes strict number current signed env
  refine ⟨?_, ?_⟩
  · intro message s' panics
    exact ends.error panics message rfl
  · intro sig s' ok
    exact ends.ok ok

theorem second_commitment_closable :
    ∃ history s info2 signatures, (channelMachine Toy.ctx).Run Toy.start history s
      ∧ s.chan.enforcementState.nextHolderCommitNum = 2
      ∧ s.chan.enforcementState.currentHolderCommitInfo = some info2
      ∧ .holderValidated ⟨s.chan.setup, 1, info2, signatures⟩ ∈ trace Toy.ctx history := by
  obtain ⟨history, s, run, keeps, number⟩ :
      ∃ history s, (channelMachine Toy.ctx).Run Toy.start history s
        ∧ Machine.Meets (fun _ => KeepsSlots) history
        ∧ s.chan.enforcementState.nextHolderCommitNum = 2 :=
    Machine.exists_run [Toy.validateHolder Toy.setup 0, Toy.activate,
      Toy.validateHolder Toy.setup 1, Toy.revoke 1] (by decide +kernel)
  obtain ⟨info2, signatures, current, _, validated, _⟩ :=
    current_slot_closable Toy.strict Toy.fresh run keeps 1 number (by rw [number]; decide)
  exact ⟨history, s, info2, signatures, run, number, current, validated⟩

/-- A splice empties the current slot of an open channel, which then cannot be closed: signing its
    commitment panics. -/
theorem spliced_slot_empty :
    ∃ history s, (channelMachine Toy.ctx).Run Toy.start history s
      ∧ s.chan.enforcementState.nextHolderCommitNum = 1
      ∧ s.chan.enforcementState.currentHolderCommitInfo = none
      ∧ ((channelMachine Toy.ctx).step s
        (.call Toy.env (.signHolderCommitmentTxPhase2 0))).isNone :=
  Machine.exists_run [Toy.validateHolder Toy.setup 0, Toy.activate, Toy.splice]
    (by decide +kernel)

end Vls
