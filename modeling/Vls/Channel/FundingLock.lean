import Vls.Channel.Effect
import Vls.Channel.Fitting
import Vls.Channel.MutualClose
import Vls.Channel.Toy

/-! # What is left when a funding is locked

The lock that ends a splice replaces the current commitments by ones made up from the balances of
the setup. These are what a mutual close is then held against. -/

namespace Vls

open Channel

variable {events : List Event} {commitment : HolderCommitment} {ctx : Context} {s : Locked}
  {setup : ChannelSetup}

def validatedCommitments (events : List Event) : List HolderCommitment :=
  events.filterMap fun
    | .holderValidated commitment => some commitment
    | _ => none

def lastValidated (events : List Event) (setup : ChannelSetup) : Option HolderCommitment :=
  (validatedCommitments events).find? (·.view = setup)

def lastSigned (events : List Event) (setup : ChannelSetup) : Option CounterpartyCommitment :=
  (signedCommitments events).find? (·.view = setup)

structure SameContent (info other : CommitmentInfo2) : Prop where
  toBroadcaster : info.toBroadcasterValueSat = other.toBroadcasterValueSat
  toCountersigner : info.toCountersignerValueSat = other.toCountersignerValueSat
  offered : info.offeredHtlcs = other.offeredHtlcs
  received : info.receivedHtlcs = other.receivedHtlcs

def CarriesOver (estate : EnforcementState) (holder counterparty : CommitmentInfo2) : Prop :=
  (∃ info ∈ estate.currentHolderCommitInfo, SameContent info holder)
    ∧ ∃ info ∈ estate.currentCounterpartyCommitInfo, SameContent info counterparty

/-- What the holder gets from a close falls short of a value by more than epsilon, the fee left
    aside: a holder who pays it is left with all that the counterparty does not get. -/
def Underpays (policy : SimplePolicy) (setup : ChannelSetup) (closingTx : ClosingTransaction)
    (value : U64) : Prop :=
  if setup.isOutbound then
    setup.channelValueSat.toNat + policy.epsilonSat.toNat
      < value.toNat + closingTx.toCounterpartyValueSat.toNat
  else
    closingTx.toHolderValueSat.toNat + policy.epsilonSat.toNat < value.toNat

/-- A close is fair to the holder, given the last commitments of both sides. -/
structure Fair (policy : SimplePolicy) (setup : ChannelSetup)
    (holder counterparty : CommitmentInfo2) (closingTx : ClosingTransaction) : Prop where
  settled : holder.Plain ∧ counterparty.Plain
  holder : ¬ Underpays policy setup closingTx holder.toBroadcasterValueSat
  counterparty : ¬ Underpays policy setup closingTx counterparty.toCountersignerValueSat

structure ClosesFairly (ctx : Context) (s : Locked) (holder counterparty : CommitmentInfo2) :
    Prop where
  byValues : ∀ env args sig s', signMutualCloseTxPhase2 ctx env args s = .ok sig s' →
    Fair ctx.validator.policy s.chan.setup holder counterparty
      (args.closingTransaction ctx.prims s.chan.setup)
  byTransaction : ∀ env tx opaths sig s', signMutualCloseTx ctx env tx opaths s = .ok sig s' →
    ∃ closingTx, closingTx.built = tx
      ∧ Fair ctx.validator.policy s.chan.setup holder counterparty closingTx

/-- The split of the channel value that a setup states: what was pushed belongs to the
    counterparty; and where the push value went negative, the holder has what they started with. -/
structure Stated (chan : Channel) (toHolder toCounterparty : U64) : Prop where
  plain : chan.setup.pushValueMsat ≤ maxPlainMsat →
    toHolder.toNat = chan.setup.channelValueSat.toNat - chan.setup.pushValueMsat.toNat / 1000
      ∧ toCounterparty.toNat = chan.setup.pushValueMsat.toNat / 1000
  wrapped : ¬ chan.setup.pushValueMsat ≤ maxPlainMsat →
    toHolder = chan.enforcementState.initialHolderValue ∧ toCounterparty.toNat
        = chan.setup.channelValueSat.toNat - chan.enforcementState.initialHolderValue.toNat

/-- The last commitments have no HTLCs and split the channel as the setup states. -/
structure AtBaseline (chan : Channel) (holder counterparty : CommitmentInfo2) : Prop where
  plain : holder.Plain ∧ counterparty.Plain
  holder : Stated chan holder.toBroadcasterValueSat holder.toCountersignerValueSat
  counterparty : Stated chan counterparty.toCountersignerValueSat counterparty.toBroadcasterValueSat

/-- The last commitments have no HTLCs and give the fundee, who pays no fee, no more than the setup
    states if that is the holder, and no less if it is the counterparty. -/
structure FundeeAtBaseline (chan : Channel) (holder counterparty : CommitmentInfo2) : Prop where
  plain : holder.Plain ∧ counterparty.Plain
  fundee : ∀ toHolder toCounterparty, Stated chan toHolder toCounterparty →
    if chan.setup.isOutbound then
      toCounterparty.toNat ≤ holder.toCountersignerValueSat.toNat
        ∧ toCounterparty.toNat ≤ counterparty.toBroadcasterValueSat.toNat
    else
      holder.toBroadcasterValueSat.toNat ≤ toHolder.toNat
        ∧ counterparty.toCountersignerValueSat.toNat ≤ toHolder.toNat

theorem stated_iff {chan toHolder toCounterparty} :
    Stated chan toHolder toCounterparty ↔ chan.baselineSplit = (toHolder, toCounterparty) := by
  unfold baselineSplit
  by_cases plain : chan.setup.pushValueMsat ≤ maxPlainMsat
  · simp only [if_pos plain, Prod.mk.injEq, ← BitVec.toNat_inj, BitVec.toNat_saturatingSub,
      BitVec.toNat_udiv]
    constructor
    · intro stated
      obtain ⟨toHolder, toCounterparty⟩ := stated.plain plain
      exact ⟨toHolder.symm, toCounterparty.symm⟩
    · rintro ⟨toHolder, toCounterparty⟩
      exact ⟨fun _ => ⟨toHolder.symm, toCounterparty.symm⟩, fun wrapped => (wrapped plain).elim⟩
  · simp only [if_neg plain, Prod.mk.injEq, ← BitVec.toNat_inj, BitVec.toNat_saturatingSub]
    constructor
    · intro stated
      obtain ⟨toHolder, toCounterparty⟩ := stated.wrapped plain
      exact ⟨congrArg BitVec.toNat toHolder.symm, toCounterparty.symm⟩
    · rintro ⟨toHolder, toCounterparty⟩
      refine ⟨fun other => (plain other).elim, fun _ => ⟨?_, toCounterparty.symm⟩⟩
      exact BitVec.eq_of_toNat_eq toHolder.symm

section lock

variable {ctx : Context} {s s' : Locked} {env : Env} {outpoint : OutPoint}
  {output : Except Status ChannelReply} {holder counterparty : CommitmentInfo2}

/-- The lock that ends a splice leaves commitments without HTLCs that split the channel as its
    setup states, whatever was current. -/
structure LockedAt (chan chan' : Channel) (toHolder toCounterparty : U64) : Prop where
  setup : chan'.setup = chan.setup
  stated : Stated chan toHolder toCounterparty
  holder : chan'.enforcementState.currentHolderCommitInfo
    = some (.new false toCounterparty toHolder [] [] 0)
  counterparty : chan'.enforcementState.currentCounterpartyCommitInfo
    = some (.new true toHolder toCounterparty [] [] 0)

theorem lockedAt_of_step (strict : ctx.validator.Strict)
    (stepped : (channelMachine ctx).step s (.call env (.confirmFundingLocked outpoint))
      = some (output, s'))
    (closes : ChannelRequest.closesWindow s (.confirmFundingLocked outpoint) = true) :
    ∃ toHolder toCounterparty, LockedAt s.chan s'.chan toHolder toCounterparty := by
  have window := (of_decide_eq_true closes).2.2
  have disclosed : events ctx ⟨s, .call env (.confirmFundingLocked outpoint), output⟩
      = [.windowClosed] := by
    simp [events, ChannelRequest.events, closes]
  have effect := step_effect strict stepped
  rw [disclosed] at effect
  cases effect with
  | call effect =>
    generalize happened : [Event.windowClosed] = events at effect
    cases effect with
    | released asked => cases asked
    | closed _ asked => cases asked
    | locked unlocked current =>
      refine ⟨s.chan.baselineSplit.1, s.chan.baselineSplit.2, ⟨rfl, stated_iff.mpr rfl, ?_, ?_⟩⟩
      · simp [fundingLockedState, window]
      · simp [fundingLockedState, window]
    | _ => cases happened

variable {chan chan' : Channel} {toHolder toCounterparty : U64}

section

variable (locked : LockedAt chan chan' toHolder toCounterparty)
include locked

theorem LockedAt.split {a b} :
    Stated chan a b ↔ toHolder = a ∧ toCounterparty = b := by
  rw [stated_iff, stated_iff.mp locked.stated, Prod.mk.injEq]

theorem LockedAt.carriesOver :
    CarriesOver chan'.enforcementState holder counterparty
      ↔ AtBaseline chan holder counterparty := by
  simp only [CarriesOver, locked.holder, locked.counterparty, Option.mem_def, Option.some.injEq,
    exists_eq_left']
  constructor
  · rintro ⟨own, other⟩
    refine ⟨⟨⟨?_, ?_⟩, ?_, ?_⟩, ?_, ?_⟩
    · exact own.offered.symm
    · exact own.received.symm
    · exact other.offered.symm
    · exact other.received.symm
    · exact locked.split.mpr ⟨own.toBroadcaster, own.toCountersigner⟩
    · exact locked.split.mpr ⟨other.toCountersigner, other.toBroadcaster⟩
  · intro base
    obtain ⟨toHolder', toCounterparty'⟩ := locked.split.mp base.holder
    obtain ⟨toHolder'', toCounterparty''⟩ := locked.split.mp base.counterparty
    exact ⟨⟨toHolder', toCounterparty', base.plain.1.1.symm, base.plain.1.2.symm⟩,
      toCounterparty'', toHolder'', base.plain.2.1.symm, base.plain.2.2.symm⟩

theorem LockedAt.fundee (base : AtBaseline chan holder counterparty) :
    FundeeAtBaseline chan holder counterparty := by
  refine ⟨base.plain, ?_⟩
  intro a b stated
  obtain ⟨rfl, rfl⟩ := locked.split.mp stated
  obtain ⟨toHolder', toCounterparty'⟩ := locked.split.mp base.holder
  obtain ⟨toHolder'', toCounterparty''⟩ := locked.split.mp base.counterparty
  split
  · exact ⟨by rw [toCounterparty'], by rw [toCounterparty'']⟩
  · exact ⟨by rw [toHolder'], by rw [toHolder'']⟩

end

theorem LockedAt.fair (strict : ctx.validator.Strict)
    (locked : LockedAt chan s'.chan toHolder toCounterparty)
    (base : FundeeAtBaseline chan holder counterparty)
    (holderFits : holder.Fits chan.setup.channelValueSat)
    (counterpartyFits : counterparty.Fits chan.setup.channelValueSat) {args}
    (passed : ctx.validator.policy.validateMutualCloseTx ctx.prims env.wallet s'.chan.setup
      s'.chan.enforcementState args = .ok ()) :
    Fair ctx.validator.policy s'.chan.setup holder counterparty
      (args.closingTransaction ctx.prims s'.chan.setup) := by
  obtain ⟨own, other, isOwn, isOther, passes⟩ :=
    SimplePolicy.validateMutualCloseTx_ok strict passed
  cases locked.holder.symm.trans isOwn
  cases locked.counterparty.symm.trans isOther
  have fundee := base.fundee _ _ locked.stated
  rw [locked.setup] at passes ⊢
  unfold CommitmentInfo2.Fits CommitmentInfo2.outputTotal at holderFits counterpartyFits
  cases direction : chan.setup.isOutbound with
  | true =>
    obtain ⟨⟨most, _⟩, _⟩ := passes.outbound direction
    simp only [direction, if_true] at fundee
    simp only [CommitmentInfo2.new] at most
    refine ⟨base.plain, ?_, ?_⟩
    · simp only [Underpays, direction, if_true, ValidateArgs.closingTransaction,
        Primitives.newClosingTransaction]
      omega
    · simp only [Underpays, direction, if_true, ValidateArgs.closingTransaction,
        Primitives.newClosingTransaction]
      omega
  | false =>
    obtain ⟨⟨_, least⟩, _⟩ := passes.inbound direction
    simp only [direction, Bool.false_eq_true, if_false] at fundee
    simp only [CommitmentInfo2.new] at least
    refine ⟨base.plain, ?_, ?_⟩
    · simp only [Underpays, direction, Bool.false_eq_true, if_false,
        ValidateArgs.closingTransaction, Primitives.newClosingTransaction]
      omega
    · simp only [Underpays, direction, Bool.false_eq_true, if_false,
        ValidateArgs.closingTransaction, Primitives.newClosingTransaction]
      omega

theorem LockedAt.closesFairly (strict : ctx.validator.Strict)
    (locked : LockedAt chan s'.chan toHolder toCounterparty)
    (base : FundeeAtBaseline chan holder counterparty)
    (holderFits : holder.Fits chan.setup.channelValueSat)
    (counterpartyFits : counterparty.Fits chan.setup.channelValueSat) :
    ClosesFairly ctx s' holder counterparty := by
  constructor
  · intro env args sig closed signed
    exact locked.fair strict base holderFits counterpartyFits (signMutualCloseTxPhase2_ok signed)
  · intro env tx opaths sig closed signed
    obtain ⟨args, passed, built⟩ := signMutualCloseTx_ok strict signed
    exact ⟨_, built, locked.fair strict base holderFits counterpartyFits passed⟩

end lock

theorem mem_validatedCommitments :
    commitment ∈ validatedCommitments events ↔ .holderValidated commitment ∈ events := by
  simp only [validatedCommitments, List.mem_filterMap]
  constructor
  · rintro ⟨event, member, here⟩
    cases event <;> simp_all
  · intro member
    exact ⟨_, member, rfl⟩

/-- A commitment that is exchanged fits the funding it is made for. -/
def Event.Fits : Event → Prop
  | .holderValidated commitment => commitment.info2.Fits commitment.view.channelValueSat
  | .counterpartySigned commitment => commitment.info2.Fits commitment.view.channelValueSat
  | _ => True

theorem fits_of_effect {s' input} (effect : StepEffect ctx s input events s') :
    ∀ event ∈ events, event.Fits := by
  cases effect with
  | others state => exact List.forall_mem_nil _
  | call effect =>
    cases effect with
    | validated _ _ checked | signed _ checked => exact List.forall_mem_singleton.mpr checked.fits
    | advanced pending balances applied disclosed =>
      rcases disclosed with rfl | ⟨_, rfl⟩ <;> simp [Event.Fits]
    | closed _ _ disclosed | revoked _ _ _ disclosed =>
      rcases disclosed with rfl | rfl <;> simp [Event.Fits]
    | locked unlocked current => split <;> simp [Event.Fits]
    | _ => simp [Event.Fits]

theorem all_fit (strict : ctx.validator.Strict) {start history}
    (run : (channelMachine ctx).Run start history s) : ∀ event ∈ trace ctx history, event.Fits := by
  refine run_always strict (fun events _ => ∀ event ∈ events, event.Fits) run
    (List.forall_mem_nil _) ?_
  intro earlier s input events s' before effect
  exact List.forall_mem_append.mpr ⟨fits_of_effect effect, before⟩

theorem lastValidated_fits (fit : ∀ event ∈ events, event.Fits)
    (last : lastValidated events setup = some commitment) :
    commitment.info2.Fits setup.channelValueSat := by
  have view : commitment.view = setup := by simpa using List.find?_some last
  exact view ▸ fit _ (mem_validatedCommitments.mp (List.mem_of_find?_eq_some last))

theorem lastSigned_fits {commitment} (fit : ∀ event ∈ events, event.Fits)
    (last : lastSigned events setup = some commitment) :
    commitment.info2.Fits setup.channelValueSat := by
  have view : commitment.view = setup := by simpa using List.find?_some last
  exact view ▸ fit _ (mem_signedCommitments.mp (List.mem_of_find?_eq_some last))

/-- In a run that ends with the lock of a spliced funding, the last commitments on it are kept, and
    closes are held against them, exactly if they have no HTLCs and split the channel as its setup
    states. For the closes it is enough that the fundee has what is stated. -/
theorem lock_keeps_value_iff {ctx : Context} (strict : ctx.validator.Strict)
    {start s s' : Locked} {history : List ChannelStep} {env : Env} {outpoint : OutPoint}
    {output : Except Status ChannelReply}
    (run : (channelMachine ctx).Run start
      (⟨s, .call env (.confirmFundingLocked outpoint), output⟩ :: history) s')
    (closes : ChannelRequest.closesWindow s (.confirmFundingLocked outpoint) = true)
    {holder : HolderCommitment} {counterparty : CounterpartyCommitment}
    (validated : lastValidated (trace ctx history) s.chan.setup = some holder)
    (signed : lastSigned (trace ctx history) s.chan.setup = some counterparty) :
    (CarriesOver s'.chan.enforcementState holder.info2 counterparty.info2
        ∧ ClosesFairly ctx s' holder.info2 counterparty.info2
      ↔ AtBaseline s.chan holder.info2 counterparty.info2)
    ∧ (FundeeAtBaseline s.chan holder.info2 counterparty.info2 →
      ClosesFairly ctx s' holder.info2 counterparty.info2) := by
  cases run with
  | step earlier stepped =>
    obtain ⟨toHolder, toCounterparty, locked⟩ := lockedAt_of_step strict stepped closes
    have fit := all_fit strict earlier
    have fairly : FundeeAtBaseline s.chan holder.info2 counterparty.info2 →
        ClosesFairly ctx s' holder.info2 counterparty.info2 := by
      intro base
      exact locked.closesFairly strict base (lastValidated_fits fit validated)
        (lastSigned_fits fit signed)
    refine ⟨⟨?_, ?_⟩, fairly⟩
    · rintro ⟨carries, _⟩
      exact locked.carriesOver.mp carries
    · intro base
      exact ⟨locked.carriesOver.mpr base, fairly (locked.fundee base)⟩

def sharedStart : Locked :=
  { Toy.start with chan := { Toy.chan with
      setup := { Toy.setup with pushValueMsat := 500000000 }
      enforcementState := .new 500000 } }

def exchangeOnNewFunding (toHolderValueSat toCounterpartyValueSat : U64) : List ChannelInput :=
  let values : CommitmentValues := ⟨1000, toHolderValueSat, toCounterpartyValueSat, [], []⟩
  [.call Toy.env (.validateHolderCommitmentTxPhase2 ⟨1, 0⟩ 0 ⟨1000, 499000, 500000, [], []⟩
      (Toy.signatures 0 1000000 [])),
    Toy.activate,
    .call Toy.env (.signCounterpartyCommitmentTxPhase2 ⟨1, 0⟩ (Toy.key 21) 0
      ⟨1000, 499000, 500000, [], []⟩),
    .call Toy.env (.setupSplice { sharedStart.chan.setup with fundingOutpoint := ⟨2, 0⟩ } []),
    .call Toy.env (.validateHolderCommitmentTxPhase2 ⟨2, 0⟩ 1 values (Toy.signatures 1 1000000 [])),
    .call Toy.env (.signCounterpartyCommitmentTxPhase2 ⟨2, 0⟩ (Toy.key 22) 1 values)]

def feelessCtx : Context :=
  { Toy.ctx with
    validator := .simple { makeDefaultSimplePolicy .testnet with minFeeratePerKw := 0 } }

theorem feelessCtx_strict : feelessCtx.validator.Strict :=
  PolicyFilter.default_strict

theorem baseline_commitments_kept :
    ∃ history s output s', (channelMachine feelessCtx).Run sharedStart
        (⟨s, .call Toy.env (.confirmFundingLocked ⟨2, 0⟩), output⟩ :: history) s'
      ∧ ∃ holder ∈ lastValidated (trace feelessCtx history) s.chan.setup,
        ∃ counterparty ∈ lastSigned (trace feelessCtx history) s.chan.setup,
        CarriesOver s'.chan.enforcementState holder.info2 counterparty.info2
          ∧ ClosesFairly feelessCtx s' holder.info2 counterparty.info2 := by
  obtain ⟨history, s, run, closes, ⟨output, s'⟩, stepped, holder, validated, counterparty, signed,
      own, other, split⟩ :
      ∃ history s, (channelMachine feelessCtx).Run sharedStart history s
        ∧ ChannelRequest.closesWindow s (.confirmFundingLocked ⟨2, 0⟩) = true
        ∧ ∃ next ∈ (channelMachine feelessCtx).step s
            (.call Toy.env (.confirmFundingLocked ⟨2, 0⟩)),
          ∃ holder ∈ lastValidated (trace feelessCtx history) s.chan.setup,
          ∃ counterparty ∈ lastSigned (trace feelessCtx history) s.chan.setup,
          holder.info2 = .new false 500000 500000 [] [] 1000
          ∧ counterparty.info2 = .new true 500000 500000 [] [] 1000
          ∧ s.chan.baselineSplit = (500000, 500000) :=
    Machine.exists_run (exchangeOnNewFunding 500000 500000) (by decide +kernel)
  have locked := lock_keeps_value_iff feelessCtx_strict (.step run stepped) closes validated signed
  refine ⟨history, s, output, s', .step run stepped, holder, validated, counterparty, signed, ?_⟩
  rw [own, other] at locked ⊢
  exact locked.1.mpr ⟨⟨⟨rfl, rfl⟩, rfl, rfl⟩, stated_iff.mpr split, stated_iff.mpr split⟩

def closeAsBefore : ValidateArgs := ⟨499000, 500000, some [], some [], []⟩

/-- A close is signed that takes from the holder what they gained on the new funding. -/
theorem closed_below_last_commitment :
    ∃ history s output s', (channelMachine Toy.ctx).Run sharedStart
        (⟨s, .call Toy.env (.confirmFundingLocked ⟨2, 0⟩), output⟩ :: history) s'
      ∧ ChannelRequest.closesWindow s (.confirmFundingLocked ⟨2, 0⟩) = true
      ∧ (∃ holder ∈ lastValidated (trace Toy.ctx history) s.chan.setup,
        holder.info2.toBroadcasterValueSat = 899000)
      ∧ (∃ counterparty ∈ lastSigned (trace Toy.ctx history) s.chan.setup,
        counterparty.info2.toCountersignerValueSat = 899000)
      ∧ ∃ sig closed, signMutualCloseTxPhase2 Toy.ctx Toy.env closeAsBefore s'
        = .ok sig closed := by
  obtain ⟨history, s, run, closes, ⟨output, s'⟩, stepped, validated, signed, accepted⟩ :
      ∃ history s, (channelMachine Toy.ctx).Run sharedStart history s
        ∧ ChannelRequest.closesWindow s (.confirmFundingLocked ⟨2, 0⟩) = true
        ∧ ∃ next ∈ (channelMachine Toy.ctx).step s (.call Toy.env (.confirmFundingLocked ⟨2, 0⟩)),
          (∃ holder ∈ lastValidated (trace Toy.ctx history) s.chan.setup,
            holder.info2.toBroadcasterValueSat = 899000)
          ∧ (∃ counterparty ∈ lastSigned (trace Toy.ctx history) s.chan.setup,
            counterparty.info2.toCountersignerValueSat = 899000)
          ∧ ((signMutualCloseTxPhase2 Toy.ctx Toy.env closeAsBefore).answer next.2).isSome :=
    Machine.exists_run (exchangeOnNewFunding 899000 100000) (by decide +kernel)
  obtain ⟨sig, answered⟩ := Option.isSome_iff_exists.mp accepted
  obtain ⟨closed, call⟩ := Call.answer_eq_some.mp answered
  exact ⟨history, s, output, s', .step run stepped, closes, validated, signed, sig, closed, call⟩

end Vls
