import Vls.Channel.Checked
import Vls.Lib.Group
import Vls.Policy.HtlcFeerate

/-! # The HTLC transactions of a recovery

A recovery closes with the latest holder commitment, which may still be waiting. The transactions
that claim its HTLCs spend every output that can be claimed once. They are signed with the point of
the commitment before the next one. -/

namespace Vls

open Channel Result List

variable {claim : ClaimableHtlc} {vout lockTime : U32} {claims : List ClaimableHtlc}
  {tx : Transaction} {txs : List Transaction} {commitment : ClosableHolderCommitment}
  {chan : Channel} {n : U64} {info : CommitmentInfo2}
  {recomposed : CommitmentTransaction × PublicKey × TxCreationKeys}

def ClaimableOutput (state : NodeState) (currentHeight : U32) (spentHtlcIndices : List Bool)
    (htlcs : List HTLCOutputInCommitment) (vout : U32) : Prop :=
  ∃ (idx : Nat) (htlc : HTLCOutputInCommitment), htlcs[idx]? = some htlc
    ∧ htlc.transactionOutputIndex = some vout
    ∧ spentHtlcIndices[idx]? = some false
    ∧ if htlc.offered then htlc.cltvExpiry ≤ currentHeight
      else ((state.payments.lookup htlc.paymentHash).bind (·.preimage)).isSome

def spentBy (txs : List Transaction) : List OutPoint :=
  txs.flatMap fun tx => tx.input.map (·.previousOutput)

section claims

variable {state : NodeState} {height : U32} {spent : List Bool}
  {htlcs : List HTLCOutputInCommitment}

def claimedOutputs (claims : List ClaimableHtlc) : List U32 :=
  claims.filterMap (·.htlc.transactionOutputIndex)

@[simp]
theorem claimedOutputs_append (claims claims' : List ClaimableHtlc) :
    claimedOutputs (claims ++ claims') = claimedOutputs claims ++ claimedOutputs claims' :=
  filterMap_append

theorem claimedOutputs_cons (indexed : claim.htlc.transactionOutputIndex = some vout)
    (claims : List ClaimableHtlc) :
    claimedOutputs (claim :: claims) = vout :: claimedOutputs claims := by
  simp [claimedOutputs, indexed]

theorem mem_claimedOutputs (sameLength : spent.length = htlcs.length) :
    vout ∈ claimedOutputs (claimable state height spent htlcs)
      ↔ ClaimableOutput state height spent htlcs vout := by
  simp only [claimedOutputs, claimable, mem_filterMap, Prod.exists, mem_zipIdx_iff_getElem?]
  constructor
  · rintro ⟨claim, ⟨htlc, idx, there, claimed⟩, indexed⟩
    have within : idx < spent.length := by
      rw [sameLength]
      exact (List.getElem?_eq_some_iff.mp there).1
    rw [List.getElem?_eq_getElem within, Option.getD_some] at claimed
    split at claimed
    · cases claimed
    · next unspent =>
      obtain ⟨_, unspent⟩ := not_or.mp unspent
      have free : spent[idx]? = some false := by
        rw [List.getElem?_eq_getElem within, Bool.eq_false_iff.mpr unspent]
      cases direction : htlc.offered with
      | true =>
        simp only [direction, if_true] at claimed
        split at claimed
        · cases claimed
        · next expired =>
          cases claimed
          exact ⟨idx, htlc, there, indexed, free, by simpa [direction] using expired⟩
      | false =>
        simp only [direction, Bool.false_eq_true, if_false] at claimed
        split at claimed
        · cases claimed
        · next preimage known =>
          cases claimed
          exact ⟨idx, htlc, there, indexed, free, by simp [direction, known]⟩
  · rintro ⟨idx, htlc, there, indexed, free, ready⟩
    cases direction : htlc.offered with
    | true =>
      simp only [direction, if_true] at ready
      refine ⟨⟨idx, htlc, none⟩, ⟨htlc, idx, there, ?_⟩, indexed⟩
      simp [indexed, free, direction, ready]
    | false =>
      simp only [direction, Bool.false_eq_true, if_false] at ready
      obtain ⟨preimage, known⟩ := Option.isSome_iff_exists.mp ready
      refine ⟨⟨idx, htlc, some preimage⟩, ⟨htlc, idx, there, ?_⟩, indexed⟩
      simp [indexed, free, direction, known]

theorem claimable_indexed (listed : claim ∈ claimable state height spent htlcs) :
    ∃ vout, claim.htlc.transactionOutputIndex = some vout := by
  simp only [claimable, mem_filterMap, Prod.exists] at listed
  obtain ⟨htlc, idx, _, claimed⟩ := listed
  split at claimed
  · cases claimed
  · next free =>
    have indexed := Option.ne_none_iff_exists'.mp (by simpa using (not_or.mp free).1)
    split at claimed
    · split at claimed
      · cases claimed
      · cases claimed
        exact indexed
    · split at claimed
      · cases claimed
      · cases claimed
        exact indexed

theorem filterMap_sublist {α β : Type} {f g : α → Option β} {items : List α}
    (less : ∀ item ∈ items, f item = none ∨ f item = g item) :
    (items.filterMap f).Sublist (items.filterMap g) := by
  induction items with
  | nil => simp
  | cons item rest ih =>
    have tail := ih fun item member => less item (mem_cons_of_mem _ member)
    obtain none | same := less item mem_cons_self
    · rw [filterMap_cons_none none]
      cases found : g item with
      | none => rwa [filterMap_cons_none found]
      | some b =>
        rw [filterMap_cons_some found]
        exact tail.cons b
    · cases found : g item with
      | none => rwa [filterMap_cons_none (same.trans found), filterMap_cons_none found]
      | some b =>
        rw [filterMap_cons_some (same.trans found), filterMap_cons_some found]
        exact tail.cons_cons b

theorem claimedOutputs_sublist :
    (claimedOutputs (claimable state height spent htlcs)).Sublist
      (htlcs.filterMap (·.transactionOutputIndex)) := by
  have all : htlcs.filterMap (·.transactionOutputIndex)
      = htlcs.zipIdx.filterMap (fun item => item.1.transactionOutputIndex) := by
    conv_lhs => rw [← zipIdx_map_fst 0 htlcs, filterMap_map]
    rfl
  rw [all, claimedOutputs, claimable, filterMap_filterMap]
  refine filterMap_sublist fun item _ => ?_
  obtain ⟨htlc, idx⟩ := item
  dsimp only
  split
  · exact .inl rfl
  · split
    · split
      · exact .inl rfl
      · exact .inr rfl
    · split
      · exact .inl rfl
      · exact .inr rfl

end claims

theorem expiries_nodup (claims : List ClaimableHtlc) : (expiries claims).Nodup :=
  (perm_insertionSort _ _).nodup_iff.mpr (nodup_dedup _)

theorem mem_expiries (member : claim ∈ claims) : claim.htlc.cltvExpiry ∈ expiries claims :=
  (perm_insertionSort _ _).mem_iff.mpr
    (mem_dedup.mpr (mem_map_of_mem member))

theorem batches_perm (chan : Channel) (claims : List ClaimableHtlc) :
    ((chan.batches claims).flatMap (·.1)).Perm claims := by
  have offered := @Group.perm _ _ _ (fun claim : ClaimableHtlc => claim.htlc.cltvExpiry)
    (claims.filter (·.htlc.offered)) _ (expiries_nodup (claims.filter (·.htlc.offered)))
    fun _ member => mem_expiries member
  have whole : (claims.filter (fun claim => !claim.htlc.offered)
      ++ claims.filter (·.htlc.offered)).Perm claims :=
    perm_append_comm.trans (filter_append_perm _ _)
  refine List.Perm.trans ?_ whole
  refine List.Perm.trans ?_ (offered.append_left _)
  unfold batches
  cases chan.setup.isZeroFeeHtlc with
  | true =>
    have received : ∀ found : List ClaimableHtlc,
        (if found.isEmpty then [] else [(found, (0 : U32))]).flatMap (·.1) = found := by
      intro found
      cases found <;> simp
    rw [if_pos rfl, flatMap_append, received, flatMap_map]
    rfl
  | false =>
    rw [if_neg (by decide), flatMap_append, flatMap_map, flatMap_assoc]
    simp only [flatMap_map, flatMap_singleton']
    rfl

section transactions

variable {ctx : Context} {chan : Channel} {parts : RecoveryParts}

def Channel.RecoveryParts.outpoint (parts : RecoveryParts) (vout : U32) : OutPoint :=
  ⟨parts.commitmentTxid, vout⟩

theorem htlcSigningData_spends (builds : ctx.prims.BuildsHtlcTxs) {data}
    (ok : chan.htlcSigningData ctx parts claim = .ok data) :
    claim.htlc.transactionOutputIndex.map parts.outpoint = some data.input.previousOutput := by
  simp only [htlcSigningData, bind_eq_ok, expect_eq_ok, okOr_eq_ok, Except.ok.injEq] at ok
  obtain ⟨htlcTx, built, _, _, input, hasInput, _, _, rfl⟩ := ok
  rw [builds] at built
  simp only [htlcTransaction, Option.bind_eq_bind, Option.bind_eq_some_iff, Option.some.injEq]
    at built
  obtain ⟨vout, indexed, _, _, rfl⟩ := built
  cases hasInput
  rw [indexed]
  rfl

theorem setWitness_previousOutputs (tx : Transaction) (i : Nat) (witness : List (List U8)) :
    (setWitness tx i witness).input.map (·.previousOutput) = tx.input.map (·.previousOutput) := by
  refine ext_getElem? fun j => ?_
  simp only [setWitness, List.getElem?_map, List.getElem?_modify]
  cases tx.input[j]? with
  | none => rfl
  | some input => by_cases same : i = j <;> simp [same]

theorem signHtlcInputs_previousOutputs (data : List HtlcSigningData) (i : Nat) (tx : Transaction) :
    (chan.signHtlcInputs ctx parts data i tx).input.map (·.previousOutput)
      = tx.input.map (·.previousOutput) := by
  induction data generalizing i tx with
  | nil => rfl
  | cons sd rest ih => rw [signHtlcInputs, ih, setWitness_previousOutputs]

theorem buildAndSignBatchedHtlcTx_ok
    (ok : chan.buildAndSignBatchedHtlcTx ctx parts claims lockTime = .ok tx) :
    ∃ data, claims.mapM (chan.htlcSigningData ctx parts) = .ok data
      ∧ tx = chan.signHtlcInputs ctx parts data 0
          ⟨2, lockTime, data.map (·.input), data.map (·.output)⟩ := by
  unfold buildAndSignBatchedHtlcTx at ok
  obtain ⟨data, gathered, ok⟩ := bind_eq_ok.mp ok
  split at ok
  · simp at ok
  · exact ⟨data, gathered, (Except.ok.inj ok).symm⟩

theorem buildAndSignBatchedHtlcTx_spends (builds : ctx.prims.BuildsHtlcTxs)
    (ok : chan.buildAndSignBatchedHtlcTx ctx parts claims lockTime = .ok tx) :
    tx.input.map (·.previousOutput) = (claimedOutputs claims).map parts.outpoint := by
  obtain ⟨data, gathered, rfl⟩ := buildAndSignBatchedHtlcTx_ok ok
  rw [signHtlcInputs_previousOutputs, map_map]
  have each := mapM_forall₂ gathered
  clear gathered ok
  induction each with
  | nil => rfl
  | @cons claim data claims rest first _ ih =>
    have spends := htlcSigningData_spends builds first
    obtain ⟨vout, indexed, same⟩ := Option.map_eq_some_iff.mp spends
    rw [claimedOutputs_cons indexed, map_cons, map_cons, ← ih, same]
    rfl

theorem batches_spend (builds : ctx.prims.BuildsHtlcTxs) {batches : List (List ClaimableHtlc × U32)}
    (ok : batches.mapM (fun batch => chan.buildAndSignBatchedHtlcTx ctx parts batch.1 batch.2) = .ok
      txs) : spentBy txs = (claimedOutputs (batches.flatMap (·.1))).map parts.outpoint := by
  have each := mapM_forall₂ ok
  clear ok
  induction each with
  | nil => rfl
  | cons first _ ih =>
    rw [spentBy, flatMap_cons, buildAndSignBatchedHtlcTx_spends builds first,
      flatMap_cons, claimedOutputs_append, map_append]
    exact congrArg _ ih

theorem signHtlcInputs_signed (data : List HtlcSigningData) (i : Nat) (tx : Transaction) {j}
    (signed : j < i) : (chan.signHtlcInputs ctx parts data i tx).input[j]? = tx.input[j]? := by
  induction data generalizing i tx with
  | nil => rfl
  | cons sd rest ih =>
    have other : i ≠ j := by omega
    rw [signHtlcInputs, ih (i + 1) _ (by omega)]
    simp [setWitness, other]

theorem signHtlcInputs_first (sd : HtlcSigningData) (rest : List HtlcSigningData) {input}
    (hasInput : tx.input[0]? = some input) :
    ((chan.signHtlcInputs ctx parts (sd :: rest) 0 tx).input[0]?.map (·.witness))
      = some (ctx.prims.buildHtlcInputWitness
          (chan.keys.signHolderHtlcTransaction ctx.prims (chan.makeChannelParameters ctx)
            parts.perCommitmentPoint sd.claim.htlc tx 0)
          sd.cpSig sd.claim.preimage sd.redeemscript chan.setup.features) := by
  rw [signHtlcInputs, signHtlcInputs_signed _ _ _ (by omega)]
  simp [setWitness, hasInput]

end transactions

/-- Signatures tell the points of successive commitments apart, and witnesses tell signatures. -/
structure Primitives.TellsPoints (prims : Primitives) : Prop where
  signature : ∀ (keys : VlsChannelSigner) (parameters : ChannelTransactionParameters)
    (htlc : HTLCOutputInCommitment) (tx : Transaction) (input : Nat) (n : U64),
    keys.signHolderHtlcTransaction prims parameters
        (keys.getPerCommitmentPoint prims (initialCommitmentNumber - (n - 1))) htlc tx input
      ≠ keys.signHolderHtlcTransaction prims parameters
        (keys.getPerCommitmentPoint prims (initialCommitmentNumber - n)) htlc tx input
  witness : ∀ (sig sig' cpSig : Signature) (preimage : Option PaymentPreimage) (script : Script)
    (features : ChannelTypeFeatures),
    prims.buildHtlcInputWitness sig cpSig preimage script features
      = prims.buildHtlcInputWitness sig' cpSig preimage script features → sig = sig'

section recovery

variable {ctx : Context} {env : Env} {s s' : Locked} {spent : List Bool} {override : Option U32}

def recoveryHeight (env : Env) (chan : Channel) (override : Option U32) : U32 :=
  override.getD (chan.getChainState env).currentHeight

def recoveryParts (chan : Channel) (commitment : ClosableHolderCommitment)
    (holderTx : CommitmentTransaction) (commitmentTxid : BitVec 256) (txkeys : TxCreationKeys)
    (perCommitmentPoint : PublicKey) : RecoveryParts where
  commitmentTxid := commitmentTxid
  txkeys := txkeys
  perCommitmentPoint := perCommitmentPoint
  cpHtlcSigs := commitment.counterpartySignatures.htlcSigs
  feeratePerKw := if chan.setup.isZeroFeeHtlc then 0 else holderTx.negotiatedFeeratePerKw

def SignedWith (ctx : Context) (env : Env) (s : Locked) (spent : List Bool) (override : Option U32)
    (commitment : ClosableHolderCommitment) (holderTx : CommitmentTransaction)
    (commitmentTxid : BitVec 256) (txkeys : TxCreationKeys) (point : PublicKey)
    (txs : List Transaction) : Prop :=
  (s.chan.batches (claimable s.state (recoveryHeight env s.chan override) spent
      holderTx.nondustHtlcs)).mapM (fun batch => s.chan.buildAndSignBatchedHtlcTx ctx
        (recoveryParts s.chan commitment holderTx commitmentTxid txkeys point) batch.1 batch.2)
    = .ok txs
  deriving Decidable

theorem signHolderHtlcTxsForRecovery_ok {holderTx txid txkeys}
    (ok : s.chan.signHolderHtlcTxsForRecovery ctx env s.state holderTx txid txkeys
      commitment.counterpartySignatures.htlcSigs spent override = .ok txs) :
    spent.length = holderTx.nondustHtlcs.length
      ∧ SignedWith ctx env s spent override commitment holderTx txid txkeys
        (s.chan.getPerCommitmentPointUnchecked ctx
          (s.chan.enforcementState.nextHolderCommitNum - 1)) txs := by
  unfold signHolderHtlcTxsForRecovery at ok
  obtain ⟨point, known, ok⟩ := bind_eq_ok.mp ok
  obtain ⟨_, rfl⟩ := getPerCommitmentPoint_eq_ok.mp known
  by_cases sameLength : spent.length = holderTx.nondustHtlcs.length
  · simp only [if_neg (not_not.mpr sameLength)] at ok
    exact ⟨sameLength, ok⟩
  · simp [sameLength] at ok

theorem recovered_ok {persistClose recovery}
    (recovered : signHolderCommitmentTxForRecoveryInner ctx env spent persistClose override s
      = .ok recovery s') :
    ∃ commitment holderTx point txkeys,
      s.chan.getLatestHolderCommitmentForClose ctx = .ok commitment
      ∧ s.chan.recomposeHolderCommitmentTx ctx commitment.commitmentNumber commitment.info
          = .ok (holderTx, point, txkeys)
      ∧ (∃ witness, recovery.tx = setWitness holderTx.transaction 0 witness)
      ∧ s.chan.signHolderHtlcTxsForRecovery ctx env s.state holderTx
          (ctx.prims.computeTxid recovery.tx) txkeys commitment.counterpartySignatures.htlcSigs
          spent override = .ok recovery.htlcTxs := by
  unfold signHolderCommitmentTxForRecoveryInner at recovered
  simp only [Call.bind_ok, Call.get_ok, Call.lift_ok] at recovered
  obtain ⟨_, _, ⟨rfl, rfl⟩, commitment, _, ⟨latest, rfl⟩, ⟨holderTx, point, txkeys⟩, _,
    ⟨recomposed, rfl⟩, recovered⟩ := recovered
  obtain ⟨htlcTxs, _, ⟨signed, rfl⟩, recovered⟩ := recovered
  refine ⟨commitment, holderTx, point, txkeys, latest, recomposed, ?_⟩
  cases persistClose with
  | false =>
    simp only [Bool.false_eq_true, if_false, Call.bind_ok, Call.lift_ok, Call.pure_ok] at recovered
    obtain ⟨_, _, _, rfl, _⟩ := recovered
    exact ⟨⟨_, rfl⟩, signed⟩
  | true =>
    simp only [if_true, Call.bind_ok, Call.lift_ok, Call.pure_ok] at recovered
    obtain ⟨_, _, _, _, _, _, _, _, _, rfl, _⟩ := recovered
    exact ⟨⟨_, rfl⟩, signed⟩

theorem latest_number (latest : s.chan.getLatestHolderCommitmentForClose ctx = .ok commitment) :
    commitment.commitmentNumber = if s.chan.enforcementState.nextHolderCommitInfo = none
      then s.chan.enforcementState.nextHolderCommitNum - 1
      else s.chan.enforcementState.nextHolderCommitNum := by
  have asked : ∀ {n : U64}, s.chan.getHolderCommitmentForClose ctx n = .ok commitment →
      commitment.commitmentNumber = n := by
    intro n found
    simp only [getHolderCommitmentForClose] at found
    split at found
    · cases found
      rfl
    · simp only [bind_eq_ok, okOr_eq_ok, Except.ok.injEq] at found
      obtain ⟨_, _, _, _, rfl⟩ := found
      rfl
  unfold getLatestHolderCommitmentForClose at latest
  cases waiting : s.chan.enforcementState.nextHolderCommitInfo with
  | some next =>
    simp only [waiting, Option.isSome_some, if_true] at latest
    rw [if_neg (by simp), asked latest]
  | none =>
    simp only [waiting, Option.isSome_none, Bool.false_eq_true, if_false, bind_eq_ok,
      okOr_eq_ok] at latest
    obtain ⟨n, before, latest⟩ := latest
    rw [if_pos rfl, asked latest, (BitVec.checkedSub_eq_some.mp before).2]

theorem batch_ne_nil {batch} (member : batch ∈ chan.batches claims) : batch.1 ≠ [] := by
  have expired : ∀ cltv ∈ expiries (claims.filter (·.htlc.offered)),
      (claims.filter (·.htlc.offered)).filter (·.htlc.cltvExpiry = cltv) ≠ [] := by
    intro cltv listed
    obtain ⟨claim, there, same⟩ := mem_map.mp
      (mem_dedup.mp ((perm_insertionSort _ _).mem_iff.mp listed))
    exact ne_nil_of_mem (mem_filter.mpr ⟨there, by simpa using same⟩)
  simp only [batches] at member
  cases zeroFee : chan.setup.isZeroFeeHtlc with
  | true =>
    simp only [zeroFee, if_true, mem_append, mem_map] at member
    obtain received | ⟨cltv, listed, rfl⟩ := member
    · split at received
      · cases received
      · next some =>
        obtain rfl := mem_singleton.mp received
        simpa using some
    · exact expired cltv listed
  | false =>
    simp only [zeroFee, Bool.false_eq_true, if_false, mem_append, mem_map, mem_flatMap] at member
    obtain ⟨claim, _, rfl⟩ | ⟨cltv, _, claim, _, rfl⟩ := member
    · exact cons_ne_nil _ _
    · exact cons_ne_nil _ _

theorem htlcSigningData_point (chan : Channel) (parts : RecoveryParts) (point : PublicKey) :
    chan.htlcSigningData ctx { parts with perCommitmentPoint := point }
      = chan.htlcSigningData ctx parts := rfl

theorem batch_tells (tells : ctx.prims.TellsPoints) {chan : Channel} {parts : RecoveryParts}
    {n : U64} {claims lockTime tx} (nonempty : claims ≠ [])
    (before : chan.buildAndSignBatchedHtlcTx ctx
      { parts with perCommitmentPoint := chan.getPerCommitmentPointUnchecked ctx (n - 1) } claims
      lockTime = .ok tx) :
    ¬ chan.buildAndSignBatchedHtlcTx ctx
      { parts with perCommitmentPoint := chan.getPerCommitmentPointUnchecked ctx n } claims
      lockTime = .ok tx := by
  intro after
  obtain ⟨data, gathered, signed⟩ := buildAndSignBatchedHtlcTx_ok before
  obtain ⟨data', gathered', signed'⟩ := buildAndSignBatchedHtlcTx_ok after
  rw [htlcSigningData_point] at gathered gathered'
  obtain rfl : data = data' := Except.ok.inj (gathered.symm.trans gathered')
  cases data with
  | nil =>
    have := (mapM_forall₂ gathered).length_eq
    exact nonempty (eq_nil_of_length_eq_zero this)
  | cons sd rest =>
    have same := congrArg (fun tx => tx.input[0]?.map (·.witness)) (signed.symm.trans signed')
    rw [signHtlcInputs_first sd rest rfl, signHtlcInputs_first sd rest rfl] at same
    exact tells.signature _ _ _ _ _ _ (tells.witness _ _ _ _ _ _ (Option.some.inj same))

def Primitives.SeparatesOutputs (prims : Primitives) : Prop :=
  ∀ parts, ((prims.buildCommitment parts).2.filterMap (·.transactionOutputIndex)).Nodup

theorem recomposed_separates (separates : ctx.prims.SeparatesOutputs)
    (ok : chan.recomposeHolderCommitmentTx ctx n info = .ok recomposed) :
    (recomposed.1.nondustHtlcs.filterMap (·.transactionOutputIndex)).Nodup := by
  simp only [recomposeHolderCommitmentTx, bind_eq_ok, Except.ok.injEq] at ok
  obtain ⟨_, _, rfl⟩ := ok
  exact separates _

theorem recomposed_point (ok : chan.recomposeHolderCommitmentTx ctx n info = .ok recomposed) :
    recomposed.2.1 = chan.getPerCommitmentPointUnchecked ctx n := by
  simp only [recomposeHolderCommitmentTx, bind_eq_ok, getPerCommitmentPoint_eq_ok,
    Except.ok.injEq] at ok
  obtain ⟨_, ⟨_, rfl⟩, rfl⟩ := ok
  rfl

section signed

variable {commitment : ClosableHolderCommitment} {holderTx : CommitmentTransaction}
  {txid : BitVec 256} {txkeys : TxCreationKeys} {point : PublicKey} {txs : List Transaction}

theorem SignedWith.spends (builds : ctx.prims.BuildsHtlcTxs)
    (separate : (holderTx.nondustHtlcs.filterMap (·.transactionOutputIndex)).Nodup)
    (sameLength : spent.length = holderTx.nondustHtlcs.length)
    (signed : SignedWith ctx env s spent override commitment holderTx txid txkeys point txs) :
    (spentBy txs).Nodup ∧ ∀ outpoint, outpoint ∈ spentBy txs ↔ outpoint.txid = txid
      ∧ ClaimableOutput s.state (recoveryHeight env s.chan override) spent holderTx.nondustHtlcs
        outpoint.vout := by
  set claims := claimable s.state (recoveryHeight env s.chan override) spent holderTx.nondustHtlcs
    with claimed
  have spends := batches_spend builds signed
  have all : (spentBy txs).Perm ((claimedOutputs claims).map (⟨txid, ·⟩)) := by
    rw [spends]
    exact ((batches_perm s.chan claims).filterMap _).map _
  have once : (claimedOutputs claims).Nodup := separate.sublist claimedOutputs_sublist
  constructor
  · refine all.nodup_iff.mpr (once.map fun a b same => ?_)
    injection same
  · intro outpoint
    rw [all.mem_iff, mem_map]
    constructor
    · rintro ⟨vout, listed, rfl⟩
      exact ⟨rfl, (mem_claimedOutputs sameLength).mp listed⟩
    · rintro ⟨rfl, ready⟩
      exact ⟨outpoint.vout, (mem_claimedOutputs sameLength).mpr ready, rfl⟩

/-- Where there is something to claim, the point of the next commitment is not the one to sign
    with if its predecessor's has been used. -/
theorem SignedWith.not_next (tells : ctx.prims.TellsPoints)
    (before : SignedWith ctx env s spent override commitment holderTx txid txkeys
      (s.chan.getPerCommitmentPointUnchecked ctx (n - 1)) txs)
    (some : claimable s.state (recoveryHeight env s.chan override) spent holderTx.nondustHtlcs
      ≠ []) :
    ¬ SignedWith ctx env s spent override commitment holderTx txid txkeys
      (s.chan.getPerCommitmentPointUnchecked ctx n) txs := by
  intro after
  have all := batches_perm s.chan (claimable s.state (recoveryHeight env s.chan override) spent
    holderTx.nondustHtlcs)
  unfold SignedWith at before after
  generalize listed : s.chan.batches (claimable s.state (recoveryHeight env s.chan override) spent
    holderTx.nondustHtlcs) = batches at before after all
  cases batches with
  | nil => exact some (List.Perm.nil_eq all).symm
  | cons batch rest =>
    have nonempty : batch.1 ≠ [] := batch_ne_nil (listed ▸ mem_cons_self)
    cases mapM_forall₂ before with
    | cons first _ =>
      cases mapM_forall₂ after with
      | cons second _ =>
        exact @batch_tells ctx tells s.chan (recoveryParts s.chan commitment holderTx txid
          txkeys (s.chan.getPerCommitmentPointUnchecked ctx n)) n _ _ _ nonempty first second

theorem SignedWith.of_nothing {point'}
    (before : SignedWith ctx env s spent override commitment holderTx txid txkeys point txs)
    (nothing : claimable s.state (recoveryHeight env s.chan override) spent holderTx.nondustHtlcs
      = []) : SignedWith ctx env s spent override commitment holderTx txid txkeys point' txs := by
  have none : s.chan.batches [] = [] := by
    cases zeroFee : s.chan.setup.isZeroFeeHtlc <;> simp [batches, zeroFee, expiries]
  unfold SignedWith at before ⊢
  rw [nothing, none] at before ⊢
  exact before

end signed

theorem claimable_eq_nil {state height htlcs} (sameLength : spent.length = htlcs.length) :
    claimable state height spent htlcs = []
      ↔ ∀ vout, ¬ ClaimableOutput state height spent htlcs vout := by
  constructor
  · intro nothing vout ready
    have := (mem_claimedOutputs sameLength).mpr ready
    rw [nothing] at this
    cases this
  · intro nothing
    rw [eq_nil_iff_forall_not_mem]
    intro claim listed
    obtain ⟨vout, indexed⟩ := claimable_indexed listed
    exact nothing vout ((mem_claimedOutputs sameLength).mp
      (mem_filterMap.mpr ⟨claim, listed, indexed⟩))

end recovery

/-- A recovery closes with the latest holder commitment and claims each of its outputs that can be
    claimed, once. The claims are signed with the point of that commitment if and only if it is
    current, or there is nothing to claim. -/
theorem recovery_htlcs_match {ctx : Context} (builds : ctx.prims.BuildsHtlcTxs)
    (separates : ctx.prims.SeparatesOutputs) (tells : ctx.prims.TellsPoints) {env : Env}
    {s s' : Locked} {spent : List Bool} {persistClose : Bool} {override : Option U32}
    {recovery : Recovery}
    (recovered : signHolderCommitmentTxForRecoveryInner ctx env spent persistClose override s
      = .ok recovery s') :
    ∃ commitment holderTx point txkeys,
      s.chan.getLatestHolderCommitmentForClose ctx = .ok commitment
      ∧ s.chan.recomposeHolderCommitmentTx ctx commitment.commitmentNumber commitment.info
          = .ok (holderTx, point, txkeys)
      ∧ (∃ witness, recovery.tx = setWitness holderTx.transaction 0 witness)
      ∧ (spentBy recovery.htlcTxs).Nodup
      ∧ (∀ outpoint, outpoint ∈ spentBy recovery.htlcTxs ↔
          outpoint.txid = ctx.prims.computeTxid recovery.tx
          ∧ ClaimableOutput s.state (recoveryHeight env s.chan override) spent
            holderTx.nondustHtlcs outpoint.vout)
      ∧ (SignedWith ctx env s spent override commitment holderTx (ctx.prims.computeTxid recovery.tx)
            txkeys point recovery.htlcTxs ↔
          s.chan.enforcementState.nextHolderCommitInfo = none
          ∨ ∀ vout, ¬ ClaimableOutput s.state (recoveryHeight env s.chan override) spent
            holderTx.nondustHtlcs vout) := by
  obtain ⟨commitment, holderTx, point, txkeys, latest, recomposed, closes, ok⟩ :=
    recovered_ok recovered
  obtain ⟨sameLength, signed⟩ := signHolderHtlcTxsForRecovery_ok ok
  obtain ⟨once, all⟩ := signed.spends builds (recomposed_separates separates recomposed) sameLength
  refine ⟨commitment, holderTx, point, txkeys, latest, recomposed, closes, once, all, ?_⟩
  have number := latest_number latest
  obtain rfl : point = _ := recomposed_point recomposed
  rw [number, ← claimable_eq_nil sameLength]
  cases s.chan.enforcementState.nextHolderCommitInfo with
  | none => exact iff_of_true (by rwa [if_pos rfl]) (.inl rfl)
  | some next =>
    rw [if_neg (by simp)]
    constructor
    · intro next
      by_contra remaining
      exact signed.not_next tells (fun nothing => remaining (.inr nothing)) next
    · rintro (current | nothing)
      · cases current
      · exact signed.of_nothing nothing

namespace Toy

/-- Primitives under which the first HTLC of a commitment has an output, and the signature of an
    HTLC transaction shows the point it was made with. -/
def recoveryPrims : Primitives :=
  { prims with
    buildHtlcTransaction := htlcTransaction prims
    derivePrivateKey := fun point _ => ⟨point.serialized.truncate 256⟩
    buildHtlcInputWitness := fun sig _ _ _ _ =>
      [(range 64).map fun k => (sig.compact >>> (8 * k)).truncate 8]
    buildCommitment := fun parts =>
      ((prims.buildCommitment parts).1,
        (parts.htlcs.take 1).map fun htlc => { htlc with transactionOutputIndex := some 0 }) }

theorem recoveryPrims_builds : recoveryPrims.BuildsHtlcTxs := rfl

theorem recoveryPrims_separates : recoveryPrims.SeparatesOutputs := by
  intro parts
  simp only [recoveryPrims]
  cases parts.htlcs <;> simp

theorem signEcdsa_key {digest key key'}
    (same : prims.signEcdsa digest key = prims.signEcdsa digest key') : key = key' := by
  have compact := congrArg Signature.compact same
  simp only [prims] at compact
  have low : ∀ bytes : BitVec 256,
      (digest.zeroExtend 512 <<< 256 ||| bytes.zeroExtend 512).setWidth 256 = bytes := by
    intro bytes
    apply BitVec.eq_of_getLsbD_eq
    intro i small
    simp [small]
  have bytes := congrArg (BitVec.setWidth 256) compact
  rw [low, low] at bytes
  cases key
  cases key'
  simpa using bytes

theorem point_index {keys : VlsChannelSigner} {i j}
    (same : (keys.getPerCommitmentPoint recoveryPrims i).serialized.truncate 256
      = (keys.getPerCommitmentPoint recoveryPrims j).serialized.truncate 256) :
    (i.truncate 48 : BitVec 48) = j.truncate 48 := by
  have truncated : ∀ bytes : BitVec 256, (bytes.zeroExtend 264).truncate 256 = bytes := by
    intro bytes
    bv_omega
  have secrets : recoveryPrims.buildCommitmentSecret keys.commitmentSeed (i.truncate 48)
      = recoveryPrims.buildCommitmentSecret keys.commitmentSeed (j.truncate 48) := by
    have shown : ∀ k : U64, (keys.getPerCommitmentPoint recoveryPrims k).serialized.truncate 256
        = recoveryPrims.buildCommitmentSecret keys.commitmentSeed (k.truncate 48) :=
      fun k => truncated _
    rw [← shown, ← shown, same]
  exact buildCommitmentSecret_injective keys.commitmentSeed secrets

theorem recoveryPrims_tells : recoveryPrims.TellsPoints where
  signature := by
    intro keys parameters htlc tx input n same
    have key := congrArg SecretKey.bytes (signEcdsa_key same)
    have index := point_index key
    unfold initialCommitmentNumber at index
    bv_omega
  witness := by
    intro sig sig' cpSig preimage script features same
    have bytes := (cons.inj same).1
    have compact : sig.compact = sig'.compact := by
      apply BitVec.eq_of_getLsbD_eq
      intro i small
      have byte := map_inj_left.mp bytes (i / 8) (mem_range.mpr (by omega))
      have bit := congrArg (·.getLsbD (i % 8)) byte
      simpa [Nat.mod_lt, Nat.div_add_mod] using bit
    cases sig
    cases sig'
    simpa using compact

def recoveryCtx : Context := { ctx with prims := recoveryPrims }

def incomingValues : CommitmentValues := ⟨1000, 989000, 0, [], [⟨10000, ⟨1⟩, 100⟩]⟩

def incomingSig : Signature := prims.signEcdsa 10000 ⟨5⟩

def validateIncoming (n : U64) : ChannelInput :=
  .call env (.validateHolderCommitmentTxPhase2 setup.fundingOutpoint n incomingValues
    (signatures n setup.channelValueSat [incomingSig]))

def incoming : List ChannelInput :=
  [validateHolder setup 0, activate, validateIncoming 1, revoke 1, validateIncoming 2, revoke 2,
    .call env (.htlcsFulfilled [⟨1⟩])]

def recoverySigned (s : Locked) : Option (Recovery × Bool) := do
  let recovery ←
    Call.answer (signHolderCommitmentTxForRecoveryInner recoveryCtx env [false] true none) s
  let commitment ← (s.chan.getLatestHolderCommitmentForClose recoveryCtx).toOption
  let (holderTx, point, txkeys) ← (s.chan.recomposeHolderCommitmentTx recoveryCtx
    commitment.commitmentNumber commitment.info).toOption
  some (recovery, decide (SignedWith recoveryCtx env s [false] none commitment holderTx
    (recoveryPrims.computeTxid recovery.tx) txkeys point recovery.htlcTxs))

end Toy

open Toy in
/-- A payment is claimed with a commitment that is current. -/
theorem current_recovery_signed :
    ∃ history s, (channelMachine recoveryCtx).Run start history s
      ∧ ∃ recovery s' commitment holderTx point txkeys,
        signHolderCommitmentTxForRecoveryInner recoveryCtx env [false] true none s = .ok recovery s'
        ∧ recovery.htlcTxs.length = 1
        ∧ s.chan.getLatestHolderCommitmentForClose recoveryCtx = .ok commitment
        ∧ s.chan.recomposeHolderCommitmentTx recoveryCtx commitment.commitmentNumber
            commitment.info = .ok (holderTx, point, txkeys)
        ∧ SignedWith recoveryCtx env s [false] none commitment holderTx
            (recoveryPrims.computeTxid recovery.tx) txkeys point recovery.htlcTxs := by
  obtain ⟨history, s, run, current, answered⟩ :
      ∃ history s, (channelMachine recoveryCtx).Run start history s
        ∧ s.chan.enforcementState.nextHolderCommitInfo = none
        ∧ (Call.answer (signHolderCommitmentTxForRecoveryInner recoveryCtx env [false] true none)
            s).map (·.htlcTxs.length) = some 1 :=
    Machine.exists_run incoming (by decide +kernel)
  obtain ⟨recovery, answered, one⟩ := Option.map_eq_some_iff.mp answered
  obtain ⟨s', recovered⟩ := Call.answer_eq_some.mp answered
  obtain ⟨commitment, holderTx, point, txkeys, latest, recomposed, _, _, _, signed⟩ :=
    recovery_htlcs_match recoveryPrims_builds recoveryPrims_separates recoveryPrims_tells recovered
  exact ⟨history, s, run, recovery, s', commitment, holderTx, point, txkeys, recovered, one, latest,
    recomposed, signed.mpr (.inl current)⟩

open Toy in
/-- Once the next commitment has been validated, the recovery closes with it but claims the
    payment with the point of the commitment before. -/
theorem waiting_recovery_missigned :
    ∃ history s, (channelMachine recoveryCtx).Run start history s
      ∧ (recoverySigned s).map (fun found => (found.1.htlcTxs.length, found.2)) = some (1, false) :=
  Machine.exists_run (incoming ++ [validateIncoming 3]) (by decide +kernel)

end Vls
