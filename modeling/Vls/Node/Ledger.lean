import Vls.Channel.Fitting
import Vls.Channel.Frame
import Vls.Node.Payments
import Vls.Node.Toy

/-! # The ledger and the commitments

The records of payments say, for each channel, what it has in flight. They are updated when a
commitment becomes current, from what the two commitments of the channel carry then, and so they
mirror the commitments for as long as nothing else replaces these. -/

namespace Vls

open NodeState Channel EnforcementState Option

variable {prims : Primitives} {validator : Validator} {share : Share}
  {info : Option CommitmentInfo2} {state : NodeState} {request : ChannelRequest}
  {events : List Event} {ctx : Context} {env : Env} {s s' : Locked} {id : ChannelId}
  {chan : Channel} {node : Node} {position : Nat} {slot : ChannelSlot} {ids : List ChannelId}

namespace NodeState

variable {state state' : NodeState} {id : ChannelId} {hash : PaymentHash}

def recordedOutgoing (state : NodeState) (id : ChannelId) (hash : PaymentHash) : U64 :=
  (state.record hash).outgoing.getD id 0

def recordedIncoming (state : NodeState) (id : ChannelId) (hash : PaymentHash) : U64 :=
  (state.record hash).incoming.getD id 0

/-- The amounts on record are the same. -/
structure SameLedger (state state' : NodeState) : Prop where
  outgoing : ∀ id hash, state'.recordedOutgoing id hash = state.recordedOutgoing id hash
  incoming : ∀ id hash, state'.recordedIncoming id hash = state.recordedIncoming id hash

theorem SameLedger.of_payments (same : state'.payments = state.payments) :
    SameLedger state state' := by
  constructor <;> intro id hash <;>
    simp only [recordedOutgoing, recordedIncoming, record, same]

theorem SameLedger.trans {state''} (first : SameLedger state state')
    (second : SameLedger state' state'') : SameLedger state state'' where
  outgoing id hash := (second.outgoing id hash).trans (first.outgoing id hash)
  incoming id hash := (second.incoming id hash).trans (first.incoming id hash)

theorem SameLedger.of_records
    (records : ∀ hash, ∃ preimage,
      state'.record hash = { state.record hash with preimage := preimage }) :
    SameLedger state state' := by
  constructor <;> intro id hash
  · obtain ⟨preimage, same⟩ := records hash
    rw [recordedOutgoing, same]
    rfl
  · obtain ⟨preimage, same⟩ := records hash
    rw [recordedIncoming, same]
    rfl

theorem htlcFulfilled_sameLedger {preimage}
    (ok : state.htlcFulfilled prims preimage validator = .ok state') : SameLedger state state' := by
  simp only [htlcFulfilled] at ok
  split at ok
  · cases ok
    exact .of_payments rfl
  · rename_i payment found
    split at ok
    · cases ok
      exact .of_payments rfl
    · obtain ⟨excess, _, done⟩ := Result.bind_eq_ok.mp ok
      cases done
      refine .of_records ?_
      intro hash
      simp only [record, Map.lookup_insert_ite]
      split
      · rename_i same
        subst same
        rw [found]
        exact ⟨_, rfl⟩
      · exact ⟨_, rfl⟩

theorem htlcsFulfilled_sameLedger {preimages}
    (ok : htlcsFulfilled prims validator state preimages = .ok state') :
    SameLedger state state' := by
  induction preimages generalizing state with
  | nil =>
    cases ok
    exact .of_payments rfl
  | cons preimage rest ih =>
    obtain ⟨next, first, later⟩ := Result.bind_eq_ok.mp ok
    exact (htlcFulfilled_sameLedger first).trans (ih later)

theorem orInsert_sameLedger (made : state'.payments = state.payments.orInsert hash .new) :
    SameLedger state state' := by
  refine .of_records ?_
  intro hash'
  simp only [record, made, Map.orInsert, Map.lookup_insert_ite]
  split
  · rename_i same
    subst same
    exact ⟨_, rfl⟩
  · exact ⟨_, rfl⟩

theorem Applied.recorded (applied : Applied state share state') :
    (state'.recordedOutgoing id hash
        = if id = share.channelId ∧ hash ∈ share.hashes then share.outgoing.getD hash 0
          else state.recordedOutgoing id hash)
      ∧ state'.recordedIncoming id hash
        = if id = share.channelId ∧ hash ∈ share.hashes then share.incoming.getD hash 0
          else state.recordedIncoming id hash := by
  by_cases touched : hash ∈ share.hashes
  · obtain ⟨preimage, found, _⟩ := applied.touched hash touched
    simp only [touched, and_true, recordedOutgoing, recordedIncoming]
    rw [show state'.record hash = _ from congrArg (·.getD .new) found]
    simp [Share.recordedIn, RoutedPayment.apply, Map.getD_insert]
  · have same := applied.untouched hash touched
    simp [touched, recordedOutgoing, recordedIncoming, record, same]

end NodeState

/-- What is recorded for a channel is what its commitments have in flight. -/
structure Mirrors (state : NodeState) (id : ChannelId)
    (holder counterparty : Option CommitmentInfo2) : Prop where
  outgoing : ∀ hash, (state.recordedOutgoing id hash).toNat = outgoingSat holder counterparty hash
  incoming : ∀ hash, (state.recordedIncoming id hash).toNat = incomingSat holder counterparty hash

def CommitmentInfo2.Sound (info : CommitmentInfo2) : Prop :=
  Addable info.offeredHtlcs ∧ Addable info.receivedHtlcs

theorem addable_htlcsOf {side} (addable : ∀ some ∈ info, Addable (side some)) :
    Addable (htlcsOf side info) := by
  cases info with
  | none =>
    change Addable []
    unfold Addable htlcTotal
    decide
  | some info => exact addable info rfl

section mirrors

variable {state state' : NodeState} {id : ChannelId}
  {holder counterparty : Option CommitmentInfo2}

theorem Mirrors.same (mirrors : Mirrors state id holder counterparty)
    (same : SameLedger state state') : Mirrors state' id holder counterparty where
  outgoing hash := by rw [same.outgoing, mirrors.outgoing]
  incoming hash := by rw [same.incoming, mirrors.incoming]

theorem mem_summaryHashes {incoming outgoing hash} :
    hash ∈ summaryHashes incoming outgoing ↔ hash ∈ incoming ∨ hash ∈ outgoing := by
  simp only [summaryHashes, List.mem_append, List.mem_filter, decide_eq_true_eq, AList.mem_keys]
  tauto

theorem Mirrors.record {estate : EnforcementState} {newHolder newCounterparty commitInfo}
    (mirrors : Mirrors state id estate.currentHolderCommitInfo estate.currentCounterpartyCommitInfo)
    (applied : Applied state ⟨id, estate.incomingPaymentsSummary newHolder newCounterparty,
      estate.paymentsSummary newHolder newCounterparty, commitInfo⟩ state')
    (holderSound : ∀ info ∈ newHolder.or estate.currentHolderCommitInfo, info.Sound)
    (counterpartySound : ∀ info ∈ newCounterparty.or estate.currentCounterpartyCommitInfo,
      info.Sound) :
    Mirrors state' id (newHolder.or estate.currentHolderCommitInfo)
      (newCounterparty.or estate.currentCounterpartyCommitInfo) := by
  constructor
  · intro hash
    rw [applied.recorded.1]
    split
    · exact paymentsSummary_getD (addable_htlcsOf fun info member => (holderSound info member).1)
        (addable_htlcsOf fun info member => (counterpartySound info member).2)
    · -- what is not touched was not in flight, and is not now
      rename_i untouched
      simp only [true_and, Share.hashes, mem_summaryHashes, not_or] at untouched
      obtain ⟨before, after⟩ := outgoingSat_of_not_mem untouched.2
      rw [mirrors.outgoing, before, after]
  · intro hash
    rw [applied.recorded.2]
    split
    · exact incomingPaymentsSummary_getD
        (addable_htlcsOf fun info member => (holderSound info member).2)
        (addable_htlcsOf fun info member => (counterpartySound info member).1)
    · rename_i untouched
      simp only [true_and, Share.hashes, mem_summaryHashes, not_or] at untouched
      obtain ⟨before, after⟩ := incomingSat_of_not_mem untouched.1
      rw [mirrors.incoming, before, after]

theorem Mirrors.apart (mirrors : Mirrors state id holder counterparty)
    (applied : Applied state share state') (other : id ≠ share.channelId) :
    Mirrors state' id holder counterparty where
  outgoing hash := by rw [applied.recorded.1, if_neg (by tauto), mirrors.outgoing]
  incoming hash := by rw [applied.recorded.2, if_neg (by tauto), mirrors.incoming]

end mirrors

def NoHtlcs (info : Option CommitmentInfo2) : Prop := ∀ some ∈ info, some.Plain
  deriving Decidable

theorem NoHtlcs.htlcsOf (none : NoHtlcs info) :
    EnforcementState.htlcsOf (·.offeredHtlcs) info = []
      ∧ EnforcementState.htlcsOf (·.receivedHtlcs) info = [] := by
  cases info with
  | none => exact ⟨rfl, rfl⟩
  | some info => exact none info rfl

theorem CommitmentInfo2.Plain.sound {info : CommitmentInfo2} (plain : info.Plain) : info.Sound := by
  unfold CommitmentInfo2.Sound Addable htlcTotal
  rw [plain.1, plain.2]
  decide

section plain

variable {state : NodeState} {id : ChannelId}
  {holder holder' counterparty counterparty' : Option CommitmentInfo2}

theorem Mirrors.replace_holder (mirrors : Mirrors state id holder counterparty)
    (before : NoHtlcs holder) (after : NoHtlcs holder') :
    Mirrors state id holder' counterparty where
  outgoing hash := by
    rw [mirrors.outgoing, outgoingSat, outgoingSat, before.htlcsOf.1, after.htlcsOf.1]
  incoming hash := by
    rw [mirrors.incoming, incomingSat, incomingSat, before.htlcsOf.2, after.htlcsOf.2]

theorem Mirrors.replace_counterparty (mirrors : Mirrors state id holder counterparty)
    (before : NoHtlcs counterparty) (after : NoHtlcs counterparty') :
    Mirrors state id holder counterparty' where
  outgoing hash := by
    rw [mirrors.outgoing, outgoingSat, outgoingSat, before.htlcsOf.2, after.htlcsOf.2]
  incoming hash := by
    rw [mirrors.incoming, incomingSat, incomingSat, before.htlcsOf.1, after.htlcsOf.1]

end plain

/-- The commitments of a channel are replaced without a record only where no HTLC is lost, the
    holder's numbers do not run out, and the counterparty's last number is signed again only for
    its funding, while the commitment is still in its slot. -/
def ChannelRequest.KeepsLedger (ctx : Context) (env : Env) (s : Locked) : ChannelRequest → Prop
  | .setupSplice setup _ => s.chan.isSpliceCompatible setup = true →
    NoHtlcs s.chan.enforcementState.currentHolderCommitInfo
      ∧ NoHtlcs s.chan.enforcementState.currentCounterpartyCommitInfo
  | .confirmFundingLocked outpoint =>
    (ChannelRequest.confirmFundingLocked outpoint).closesWindow s = true →
    NoHtlcs s.chan.enforcementState.currentHolderCommitInfo
      ∧ NoHtlcs s.chan.enforcementState.currentCounterpartyCommitInfo
  | .activateInitialCommitment => s.chan.enforcementState.nextHolderCommitNum ≠ 0 →
    NoHtlcs s.chan.enforcementState.currentHolderCommitInfo
      ∧ NoHtlcs (s.chan.enforcementState.nextHolderCommitInfo.map (·.1))
  | .revokePreviousHolderCommitment number =>
    (ChannelRequest.revokePreviousHolderCommitment number).movesOn s = true →
    s.chan.enforcementState.nextHolderCommitNum + 2 ≠ 0
  | request => ∀ commitment ∈ request.counterpartyCommitment ctx env s,
    commitment.commitmentNumber + 1 = s.chan.enforcementState.nextCounterpartyCommitNum →
    s.chan.enforcementState.counterpartyCommitmentFunding = some commitment.view.fundingOutpoint
      ∧ s.chan.enforcementState.currentCounterpartyCommitInfo.isSome

instance (ctx : Context) (env : Env) (s : Locked) (request : ChannelRequest) :
    Decidable (request.KeepsLedger ctx env s) := by
  cases request <;> unfold ChannelRequest.KeepsLedger <;> infer_instance

/-- A channel is on record, and its commitments can be summed up. -/
structure Tracked (s : Locked) : Prop where
  mirrors : Mirrors s.state s.chan.id0 s.chan.enforcementState.currentHolderCommitInfo
    s.chan.enforcementState.currentCounterpartyCommitInfo
  holder : ∀ info ∈ s.chan.enforcementState.currentHolderCommitInfo, info.Sound
  counterparty : ∀ info ∈ s.chan.enforcementState.currentCounterpartyCommitInfo, info.Sound
  waiting : ∀ next ∈ s.chan.enforcementState.nextHolderCommitInfo, next.1.Sound
  first : s.chan.enforcementState.nextHolderCommitNum = 0 →
    NoHtlcs s.chan.enforcementState.currentHolderCommitInfo
      ∧ NoHtlcs (s.chan.enforcementState.nextHolderCommitInfo.map (·.1))
  room : s.chan.enforcementState.nextHolderCommitNum + 1 ≠ 0

namespace Tracked

variable {ctx : Context} {env : Env} {s s' : Locked}

theorem validated (strict : ctx.validator.Strict) (tracked : Tracked s) {commitment}
    (checked : HolderChecked ctx env s commitment) (straggler : Bool) :
    Tracked (s.withEstate
      (storeHolderCommitment s.chan.enforcementState commitment straggler)) := by
  unfold storeHolderCommitment
  split
  · rename_i next
    refine ⟨tracked.mirrors, tracked.holder, tracked.counterparty, ?_, ?_, tracked.room⟩
    · rintro _ ⟨⟩
      exact checked.fits.addable
    · intro zero
      refine ⟨(tracked.first zero).1, ?_⟩
      rintro _ ⟨⟩
      have zero : commitment.commitmentNumber = 0 := next.trans zero
      have validated := checked.commitmentTx
      rw [zero] at validated
      exact SimplePolicy.validateCommitmentTx_first strict validated
  · split
    · exact ⟨tracked.mirrors, tracked.holder, tracked.counterparty, tracked.waiting,
        tracked.first, tracked.room⟩
    · exact tracked

theorem advanced (tracked : Tracked s) {info2 : CommitmentInfo2} {signatures delta}
    (pending : s.chan.enforcementState.nextHolderCommitInfo = some (info2, signatures))
    (room : s.chan.enforcementState.nextHolderCommitNum + 2 ≠ 0)
    (applied : s.state.applyPayments s.chan.id0 (s.chan.enforcementState.incomingPaymentsSummary
      (some info2) none) (s.chan.enforcementState.paymentsSummary (some info2) none) delta
      ctx.validator info2 = .ok state) :
    Tracked { s.withEstate (s.chan.enforcementState.promoted info2 signatures) with
      state := state } := by
  have sound := tracked.waiting _ pending
  have holderSound : ∀ info ∈ (some info2).or s.chan.enforcementState.currentHolderCommitInfo,
      info.Sound := by
    rintro _ ⟨⟩
    exact sound
  have applied : Applied s.state (s.chan.holderShare info2) state := applyPayments_applied applied
  refine ⟨tracked.mirrors.record applied holderSound tracked.counterparty, ?_,
    tracked.counterparty, ?_, ?_, ?_⟩
  · rintro _ ⟨⟩
    exact sound
  · rintro _ ⟨⟩
  · intro zero
    exact absurd zero tracked.room
  · change s.chan.enforcementState.nextHolderCommitNum + 1 + 1 ≠ 0
    bv_omega

theorem signed (strict : ctx.validator.Strict) (tracked : Tracked s)
    {commitment : CounterpartyCommitment} (checked : CounterpartyChecked ctx env s commitment)
    (again : commitment.commitmentNumber + 1 = s.chan.enforcementState.nextCounterpartyCommitNum →
      s.chan.enforcementState.counterpartyCommitmentFunding = some commitment.view.fundingOutpoint ∧
      s.chan.enforcementState.currentCounterpartyCommitInfo.isSome)
    (signed : SignedTo ctx s commitment s') : Tracked s' := by
  have sound : commitment.info2.Sound := checked.fits.addable
  have counterpartySound : ∀ info ∈ (some commitment.info2).or
      s.chan.enforcementState.currentCounterpartyCommitInfo, info.Sound := by
    rintro _ ⟨⟩
    exact sound
  have applied : Applied s.state (s.chan.counterpartyShare commitment.info2) s'.state :=
    applyPayments_applied signed.applied
  have recorded := tracked.mirrors.record applied tracked.holder counterpartySound
  obtain ⟨_, _, _, _, same⟩ := counterpartySigned_eq strict signed.advanced
  have number := congrArg nextHolderCommitNum same
  have current := congrArg currentHolderCommitInfo same
  have waiting := congrArg nextHolderCommitInfo same
  have info : s'.chan.enforcementState.currentCounterpartyCommitInfo = some commitment.info2 := by
    cases (counterpartySigned_ok strict signed.advanced).signing with
    | next number point previousPoint info => exact info
    | againAtTop number top point previousPoint info => exact info
    | again number point previousPoint info =>
      obtain ⟨funding, stored⟩ := again number
      obtain ⟨_, retry⟩ := Validator.validateCounterpartyCommitmentTx_ok strict checked.validated
      obtain ⟨_, same⟩ := retry number funding
      have slot : s.chan.enforcementState.getPreviousCounterpartyCommitInfo
          commitment.commitmentNumber
          = s.chan.enforcementState.currentCounterpartyCommitInfo :=
        if_pos number
      rw [SimplePolicy.prevCommitInfo, slot, if_pos ⟨funding, stored⟩] at same
      exact info.trans same
  have id0 : s'.chan.id0 = s.chan.id0 := by rw [signed.frame]
  refine ⟨?_, ?_, ?_, ?_, ?_, ?_⟩
  · rw [id0, current, info]
    exact recorded
  · rw [current]
    exact tracked.holder
  · rw [info]
    exact counterpartySound
  · rw [waiting]
    exact tracked.waiting
  · rw [number, current, waiting]
    exact tracked.first
  · rw [number]
    exact tracked.room

theorem locked (tracked : Tracked s) {outpoint : OutPoint}
    (none : s.chan.prevSetup.isSome ∨ s.chan.prevPrevSetup.isSome →
      NoHtlcs s.chan.enforcementState.currentHolderCommitInfo
      ∧ NoHtlcs s.chan.enforcementState.currentCounterpartyCommitInfo) :
    Tracked { s with chan := s.chan.fundingLockedState outpoint } := by
  simp only [fundingLockedState]
  split
  · -- the made up commitments have no HTLCs either
    rename_i window
    obtain ⟨holder, counterparty⟩ := none window
    have plain : ∀ isCounterparty a b,
        (CommitmentInfo2.new isCounterparty a b [] [] 0).Plain := fun _ _ _ => ⟨rfl, rfl⟩
    refine ⟨?_, ?_, ?_, tracked.waiting, ?_, tracked.room⟩
    · refine (tracked.mirrors.replace_holder holder ?_).replace_counterparty counterparty ?_ <;>
        rintro _ ⟨⟩ <;> exact plain _ _ _
    · rintro _ ⟨⟩
      exact (plain _ _ _).sound
    · rintro _ ⟨⟩
      exact (plain _ _ _).sound
    · intro zero
      refine ⟨?_, (tracked.first zero).2⟩
      rintro _ ⟨⟩
      exact plain _ _ _
  · exact ⟨tracked.mirrors, tracked.holder, tracked.counterparty, tracked.waiting, tracked.first,
      tracked.room⟩

theorem step (strict : ctx.validator.Strict) (tracked : Tracked s)
    (keeps : request.KeepsLedger ctx env s) (effect : Effect ctx env s request events s') :
    Tracked s' := by
  cases effect with
  | idle | released => exact tracked
  | validated straggler asked checked => exact tracked.validated strict checked straggler
  | dropped pending =>
    refine ⟨tracked.mirrors, tracked.holder, tracked.counterparty, ?_, ?_, tracked.room⟩
    · rintro _ ⟨⟩
    · intro zero
      exact ⟨(tracked.first zero).1, by rintro _ ⟨⟩⟩
  | stalled pending last =>
    refine absurd last (keeps ?_)
    simp [ChannelRequest.movesOn, pending]
  | advanced pending balances applied disclosed =>
    refine tracked.advanced pending (keeps ?_) applied
    simp [ChannelRequest.movesOn, pending]
  | activated pending zero =>
    rename_i info2 signatures
    obtain ⟨before, after⟩ := tracked.first zero
    rw [pending] at after
    refine ⟨tracked.mirrors.replace_holder before after, ?_, tracked.counterparty, ?_, ?_, ?_⟩
    · rintro _ ⟨⟩
      exact tracked.waiting _ pending
    · rintro _ ⟨⟩
    · intro top
      exact absurd top tracked.room
    · change s.chan.enforcementState.nextHolderCommitNum + 1 + 1 ≠ 0
      rw [zero]
      decide
  | reactivated pending second window =>
    rename_i info2 signatures
    have moved : s.chan.enforcementState.nextHolderCommitNum ≠ 0 := by
      rw [second]
      decide
    obtain ⟨before, after⟩ := keeps moved
    rw [pending] at after
    refine ⟨tracked.mirrors.replace_holder before after, ?_, tracked.counterparty, ?_, ?_,
      tracked.room⟩
    · rintro _ ⟨⟩
      exact tracked.waiting _ pending
    · rintro _ ⟨⟩
    · intro zero
      exact absurd zero moved
  | closed recorded asked disclosed =>
    exact { tracked with }
  | signed asked checked signed =>
    refine tracked.signed strict checked ?_ signed
    intro again
    cases request with
    | signCounterpartyCommitmentTx => exact keeps _ asked again
    | signCounterpartyCommitmentTxPhase2 => exact keeps _ asked again
    | _ => cases asked
  | stored stored =>
    obtain ⟨_, rfl⟩ := storeSecret_eq strict stored
    exact { tracked with }
  | revoked validated stored advanced disclosed =>
    obtain ⟨-, _, _, rfl⟩ := revoked_eq strict stored advanced
    exact { tracked with }
  | spliced compatible =>
    obtain ⟨holder, counterparty⟩ := keeps compatible
    have none : NoHtlcs none := by rintro _ ⟨⟩
    refine ⟨(tracked.mirrors.replace_holder holder none).replace_counterparty counterparty none,
      ?_, ?_, ?_, ?_, tracked.room⟩
    · rintro _ ⟨⟩
    · rintro _ ⟨⟩
    · rintro _ ⟨⟩
    · exact fun _ => ⟨none, none⟩
  | locked unlocked current =>
    rename_i outpoint
    refine tracked.locked ?_
    intro window
    exact keeps (decide_eq_true ⟨unlocked, current, window⟩)
  | fulfilled applied =>
    exact ⟨tracked.mirrors.same (htlcsFulfilled_sameLedger applied), tracked.holder,
      tracked.counterparty, tracked.waiting, tracked.first, tracked.room⟩

end Tracked

theorem Effect.ledger_apart (effect : Effect ctx env s request events s') {holder counterparty}
    (other : id ≠ s.chan.id0) (mirrors : Mirrors s.state id holder counterparty) :
    Mirrors s'.state id holder counterparty := by
  cases effect with
  | advanced pending balances applied disclosed =>
    rename_i info2 _ _ _
    have applied : Applied s.state (s.chan.holderShare info2) _ := applyPayments_applied applied
    exact mirrors.apart applied other
  | signed asked checked signed =>
    rename_i commitment
    have applied : Applied s.state (s.chan.counterpartyShare commitment.info2) s'.state :=
      applyPayments_applied signed.applied
    exact mirrors.apart applied other
  | fulfilled applied => exact mirrors.same (htlcsFulfilled_sameLedger applied)
  | _ => exact mirrors

theorem Effect.id0 (effect : Effect ctx env s request events s') : s'.chan.id0 = s.chan.id0 := by
  cases effect with
  | signed asked checked signed => rw [signed.frame]
  | _ => rfl

/-- Every channel is on record, under an id of its own that leads to a channel; and nothing else
    is. -/
structure LedgerKept (node : Node) : Prop where
  tracked : ∀ (position : Nat) chan, node.slots[position]? = some (.ready chan) →
    Tracked ⟨chan, node.state⟩
  distinct : ∀ (position position' : Nat) chan chan',
    node.slots[position]? = some (.ready chan) → node.slots[position']? = some (.ready chan') →
    chan.id0 = chan'.id0 → position = position'
  reached : ∀ (position : Nat) chan, node.slots[position]? = some (.ready chan) →
    ∃ position' chan', node.getChannel chan.id0 = some (position', .ready chan')
  nothingElse : ∀ id, (∀ (position : Nat) chan, node.slots[position]? = some (.ready chan) →
    chan.id0 ≠ id) → Mirrors node.state id none none

def KeepsLedger (ctx : NodeContext) (node : Node) (input : NodeInput) : Prop :=
  ∀ call ∈ input.request.calls node,
    call.2.2.KeepsLedger ctx.toContext input.env ⟨call.2.1, node.state⟩

instance (ctx : NodeContext) (node : Node) (input : NodeInput) :
    Decidable (KeepsLedger ctx node input) := by
  unfold KeepsLedger
  infer_instance

theorem Tracked.elsewhere {state'} (tracked : Tracked ⟨chan, state⟩)
    (mirrors : Mirrors state' chan.id0 chan.enforcementState.currentHolderCommitInfo
      chan.enforcementState.currentCounterpartyCommitInfo) : Tracked ⟨chan, state'⟩ :=
  ⟨mirrors, tracked.holder, tracked.counterparty, tracked.waiting, tracked.first, tracked.room⟩

theorem getChannel_put {position'} (s : Locked)
    (led : node.getChannel id = some (position', .ready chan)) :
    ∃ chan', (node.put position s).getChannel id = some (position', .ready chan') := by
  simp only [Node.getChannel, bind_eq_bind, bind_eq_some_iff, pure_def,
    some.injEq, Prod.mk.injEq] at led ⊢
  obtain ⟨target, found, _, slot, rfl, rfl⟩ := led
  obtain ⟨inRange, _⟩ := List.getElem?_eq_some_iff.mp slot
  by_cases here : target = position
  · subst here
    exact ⟨s.chan, _, found, _, List.getElem?_set_self inRange, rfl, rfl⟩
  · exact ⟨chan, _, found, _, (List.getElem?_set_ne (Ne.symm here)).trans slot, rfl, rfl⟩

theorem getChannel_addSlot :
    (id ∈ ids → (node.addSlot slot ids).getChannel id = some (node.slots.length, slot))
      ∧ (id ∉ ids → ∀ found, node.getChannel id = some found →
        (node.addSlot slot ids).getChannel id = some found) := by
  have lookup : (node.addSlot slot ids).channels.lookup id
      = if id ∈ ids then some node.slots.length else node.channels.lookup id :=
    Map.lookup_foldl_insert ids node.slots.length node.channels id
  constructor
  · intro member
    have here : (node.addSlot slot ids).slots[node.slots.length]? = some slot :=
      List.getElem?_concat_length
    simp [Node.getChannel, lookup, if_pos member, here]
  · rintro other ⟨position, slot'⟩ found
    have inSlot := getChannel_slot found
    obtain ⟨inRange, _⟩ := List.getElem?_eq_some_iff.mp inSlot
    simp only [Node.getChannel, bind_eq_bind, bind_eq_some_iff, pure_def,
      some.injEq, Prod.mk.injEq, lookup, if_neg other] at found ⊢
    obtain ⟨_, there, _, _, rfl, rfl⟩ := found
    exact ⟨_, there, _, (List.getElem?_append_left inRange).trans inSlot, rfl, rfl⟩

namespace LedgerKept

variable {ctx : NodeContext} {node : Node}

theorem new {velocityControl} : LedgerKept (.new velocityControl) where
  tracked position chan slot := by simp [Node.new] at slot
  distinct position position' chan chan' slot := by simp [Node.new] at slot
  reached position chan slot := by simp [Node.new] at slot
  nothingElse id _ := ⟨fun _ => rfl, fun _ => rfl⟩

theorem same (kept : LedgerKept node) (same : SameLedger node.state state) :
    LedgerKept { node with state := state } where
  tracked position chan slot := by
    have tracked := kept.tracked position chan slot
    exact tracked.elsewhere (tracked.mirrors.same same)
  distinct := kept.distinct
  reached := kept.reached
  nothingElse id absent := (kept.nothingElse id absent).same same

theorem called (strict : ctx.validator.Strict) (kept : LedgerKept node) {asked}
    (inSlot : node.slots[position]? = some (.ready chan))
    (keeps : asked.KeepsLedger ctx.toContext env ⟨chan, node.state⟩)
    (effect : Effect ctx.toContext env ⟨chan, node.state⟩ asked events s') :
    LedgerKept (node.put position s') := by
  have id0 : s'.chan.id0 = chan.id0 := effect.id0
  obtain ⟨inRange, _⟩ := List.getElem?_eq_some_iff.mp inSlot
  -- a slot of the new node held a channel with the same id before
  have before : ∀ (position' : Nat) chan',
      (node.put position s').slots[position']? = some (.ready chan') →
      position' = position ∧ chan' = s'.chan
        ∨ position' ≠ position ∧ node.slots[position']? = some (.ready chan') := by
    intro position' chan' slot
    by_cases here : position' = position
    · subst here
      simp only [Node.put, List.getElem?_set_self inRange, some.injEq,
        ChannelSlot.ready.injEq] at slot
      exact .inl ⟨rfl, slot.symm⟩
    · simp only [Node.put, List.getElem?_set_ne (Ne.symm here)] at slot
      exact .inr ⟨here, slot⟩
  have others : ∀ (position' : Nat) chan', position' ≠ position →
      node.slots[position']? = some (.ready chan') → chan'.id0 ≠ chan.id0 := by
    intro position' chan' elsewhere slot same
    exact elsewhere (kept.distinct _ _ _ _ slot inSlot same)
  refine ⟨?_, ?_, ?_, ?_⟩
  · intro position' chan' slot
    rcases before position' chan' slot with ⟨rfl, rfl⟩ | ⟨elsewhere, slot⟩
    · exact (kept.tracked _ _ inSlot).step strict keeps effect
    · have tracked := kept.tracked _ _ slot
      exact tracked.elsewhere
        (effect.ledger_apart (others _ _ elsewhere slot) tracked.mirrors)
  · intro first second chan₁ chan₂ slot₁ slot₂ same
    rcases before first chan₁ slot₁ with ⟨rfl, rfl⟩ | ⟨elsewhere₁, old₁⟩ <;>
      rcases before second chan₂ slot₂ with ⟨rfl, rfl⟩ | ⟨elsewhere₂, old₂⟩
    · rfl
    · exact absurd (same.symm.trans id0) (others _ _ elsewhere₂ old₂)
    · exact absurd (same.trans id0) (others _ _ elsewhere₁ old₁)
    · exact kept.distinct _ _ _ _ old₁ old₂ same
  · intro position' chan' slot
    have old : ∃ position'' chan'',
        node.getChannel chan'.id0 = some (position'', .ready chan'') := by
      rcases before position' chan' slot with ⟨rfl, rfl⟩ | ⟨elsewhere, slot⟩
      · rw [id0]
        exact kept.reached _ _ inSlot
      · exact kept.reached _ _ slot
    obtain ⟨position'', chan'', led⟩ := old
    obtain ⟨chan₁, led⟩ := getChannel_put s' led
    exact ⟨_, _, led⟩
  · intro id absent
    have here : (node.put position s').slots[position]? = some (.ready s'.chan) :=
      List.getElem?_set_self inRange
    have other : id ≠ chan.id0 := by
      rintro rfl
      exact absent _ _ here id0
    refine effect.ledger_apart other (kept.nothingElse id ?_)
    intro position' chan' slot
    by_cases same : position' = position
    · subst same
      cases inSlot.symm.trans slot
      exact other.symm
    · exact absent position' chan' ((List.getElem?_set_ne (Ne.symm same)).trans slot)

theorem added (kept : LedgerKept node)
    (fresh : ∀ chan, slot = .ready chan → Fresh ⟨chan, node.state⟩)
    (unled : ∀ stub, slot = .stub stub → ∀ id ∈ ids, node.getChannel id = none)
    (led : ∀ chan, slot = .ready chan → chan.id0 ∈ ids ∧ ∃ position stub,
      node.getChannel chan.id0 = some (position, .stub stub)) :
    LedgerKept (node.addSlot slot ids) := by
  have before : ∀ (position : Nat) chan,
      (node.addSlot slot ids).slots[position]? = some (.ready chan) →
      node.slots[position]? = some (.ready chan)
        ∨ position = node.slots.length ∧ slot = .ready chan := by
    intro position chan here
    simp only [Node.addSlot, List.getElem?_append] at here
    split at here
    · exact .inl here
    · obtain ⟨inRange, same⟩ := List.getElem?_eq_some_iff.mp here
      refine .inr ⟨?_, by simpa using same⟩
      simp only [List.length_singleton] at inRange
      omega
  -- the id of a channel that gets its slot now was not on record
  have unknown : ∀ chan, slot = .ready chan → ∀ (position : Nat) chan',
      node.slots[position]? = some (.ready chan') → chan'.id0 ≠ chan.id0 := by
    intro chan ready position chan' here same
    obtain ⟨_, position₁, stub, stubbed⟩ := led chan ready
    obtain ⟨position₂, chan₂, reached⟩ := kept.reached position chan' here
    rw [same, stubbed] at reached
    cases reached
  refine ⟨?_, ?_, ?_, ?_⟩
  · intro position chan here
    rcases before position chan here with here | ⟨_, ready⟩
    · exact kept.tracked position chan here
    · have mirrors := kept.nothingElse chan.id0 (unknown chan ready)
      obtain ⟨value, started⟩ := (fresh chan ready).enforcementState
      have started : chan.enforcementState = .new value := started
      refine ⟨?_, ?_, ?_, ?_, ?_, ?_⟩ <;> simp only [started]
      · exact mirrors
      · rintro _ ⟨⟩
      · rintro _ ⟨⟩
      · rintro _ ⟨⟩
      · exact fun _ => ⟨by rintro _ ⟨⟩, by rintro _ ⟨⟩⟩
      · exact (by decide : (0 : U64) + 1 ≠ 0)
  · intro first second chan₁ chan₂ slot₁ slot₂ same
    rcases before first chan₁ slot₁ with old₁ | ⟨end₁, ready₁⟩ <;>
      rcases before second chan₂ slot₂ with old₂ | ⟨end₂, ready₂⟩
    · exact kept.distinct _ _ _ _ old₁ old₂ same
    · exact absurd same (unknown chan₂ ready₂ first chan₁ old₁)
    · exact absurd same.symm (unknown chan₁ ready₁ second chan₂ old₂)
    · exact end₁.trans end₂.symm
  · intro position chan here
    by_cases member : chan.id0 ∈ ids
    · cases slot with
      | ready new => exact ⟨_, _, getChannel_addSlot.1 member⟩
      | stub stub =>
        -- a stub is not made under the id of a channel
        rcases before position chan here with here | ⟨_, ready⟩
        · obtain ⟨position', chan', reached⟩ := kept.reached position chan here
          rw [unled stub rfl _ member] at reached
          cases reached
        · cases ready
    · rcases before position chan here with here | ⟨_, ready⟩
      · obtain ⟨position', chan', reached⟩ := kept.reached position chan here
        exact ⟨_, _, getChannel_addSlot.2 member _ reached⟩
      · exact absurd (led chan ready).1 member
  · intro id absent
    refine kept.nothingElse id ?_
    intro position chan here
    obtain ⟨inRange, _⟩ := List.getElem?_eq_some_iff.mp here
    exact absent position chan ((List.getElem?_append_left inRange).trans here)

theorem step (strict : ctx.validator.Strict) (kept : LedgerKept node) {node' input}
    (keeps : KeepsLedger ctx node input) (effect : NodeEffect ctx node input node') :
    LedgerKept node' := by
  cases effect with
  | idle => exact kept
  | called calls stepped =>
    cases step_effect strict stepped with
    | call effect => exact kept.called strict (calls_slot calls) (keeps _ calls) effect
  | added fresh unled led => exact kept.added fresh unled led
  | approved asked new => exact kept.same (orInsert_sameLedger rfl)
  | recorded payments invoices excessAmount => exact kept.same (.of_payments payments)

end LedgerKept

/-- What is recorded for a payment on a channel is what the two current commitments of the channel
    have in flight for it. -/
theorem ledger_mirrors_commitments {ctx : NodeContext} (strict : ctx.validator.Strict)
    {velocityControl : VelocityControl} {node : Node} {history : List NodeStep}
    (run : (nodeMachine ctx).Run (.new velocityControl) history node)
    (meets : Machine.Meets (fun _ => KeepsLedger ctx) history) {position : Nat} {chan : Channel}
    (slot : node.slots[position]? = some (.ready chan)) (hash : PaymentHash) :
    (node.state.recordedOutgoing chan.id0 hash).toNat
        = outgoingSat chan.enforcementState.currentHolderCommitInfo
          chan.enforcementState.currentCounterpartyCommitInfo hash
      ∧ (node.state.recordedIncoming chan.id0 hash).toNat
        = incomingSat chan.enforcementState.currentHolderCommitInfo
          chan.enforcementState.currentCounterpartyCommitInfo hash := by
  have kept : LedgerKept node :=
    node_run_inv (KeepsLedger ctx) LedgerKept run meets .new
      fun _ _ _ kept keeps effect => kept.step strict keeps effect
  have mirrors := (kept.tracked position chan slot).mirrors
  exact ⟨mirrors.outgoing hash, mirrors.incoming hash⟩

open Toy

def ledgerNode : NodeContext := nodeCtx (makeDefaultSimplePolicy .testnet)

def sendPayment : List NodeInput :=
  [createChannel 1, openChannel 1, approve 5 10000000,
    sign 1 0 ⟨1000, 499000, 500000, [], []⟩,
    sign 1 1 ⟨1000, 489000, 500000, [], [htlc 10000 5 100]⟩]

def spliceAndSettle : List NodeInput :=
  [⟨Toy.env, .setupChannel (channelId 1) none
      { sharedSetup with fundingOutpoint := ⟨2, 0⟩ } []⟩,
    onChannel 1 (.confirmFundingLocked ⟨2, 0⟩),
    onChannel 1 (.validateCounterpartyRevocation 0 ⟨21⟩),
    onChannel 1 (.signCounterpartyCommitmentTxPhase2 ⟨2, 0⟩ (key 23) 2
      ⟨1000, 499000, 500000, [], []⟩)]

theorem sent_payment_mirrored :
    ∃ history node, (nodeMachine ledgerNode).Run nodeStart history node ∧ ∃ chan ∈ node.channelAt 1,
        node.state.recordedOutgoing chan.id0 (paymentHash 5) = 10000
        ∧ outgoingSat chan.enforcementState.currentHolderCommitInfo
          chan.enforcementState.currentCounterpartyCommitInfo (paymentHash 5) = 10000 := by
  obtain ⟨history, node, run, meets, chan, found, recorded⟩ :
      ∃ history node, (nodeMachine ledgerNode).Run nodeStart history node
        ∧ Machine.Meets (fun _ => KeepsLedger ledgerNode) history
        ∧ ∃ chan ∈ node.channelAt 1,
          node.state.recordedOutgoing chan.id0 (paymentHash 5) = 10000 :=
    Machine.exists_run sendPayment (by decide +kernel)
  have mirrored := ledger_mirrors_commitments Toy.strict run meets (slot_of_channelAt found)
    (paymentHash 5)
  refine ⟨history, node, run, chan, found, recorded, ?_⟩
  rw [← mirrored.1, recorded]
  rfl

/-- The amount of a payment stays on record after the payment is gone from both commitments. -/
theorem spliced_payment_kept :
    ∃ history node, (nodeMachine ledgerNode).Run nodeStart history node ∧ ∃ chan ∈ node.channelAt 1,
        node.state.recordedOutgoing chan.id0 (paymentHash 5) = 10000
        ∧ outgoingSat chan.enforcementState.currentHolderCommitInfo
          chan.enforcementState.currentCounterpartyCommitInfo (paymentHash 5) = 0
        ∧ chan.prevSetup = none
        ∧ chan.enforcementState.nextCounterpartyCommitNum = 3 :=
  Machine.exists_run (sendPayment ++ spliceAndSettle) (by decide +kernel)

end Vls
