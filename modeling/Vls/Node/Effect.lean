import Vls.Channel.Effect
import Vls.Node.Machine

/-! # What a node can do

One relation lists everything a request to a node can do: it reaches a channel and has an effect
there, it makes a slot, or it approves or issues an invoice. Every property of the runs of a node
is derived from this list. -/

namespace Vls

open Call NodeState

variable {bad : Fault Status → Node → Prop} {stub : ChannelStub} {channelId0 : ChannelId}
  {optChannelId : Option ChannelId} {setup : ChannelSetup} {state' : NodeState}
  {validator : Validator} {duplicate : String} {now : Duration} {persisted added : Bool}
  {ctx : NodeContext} {node' : Node} {history : List NodeStep} {s : Locked}

namespace NodeRequest

def calls (node : Node) : NodeRequest → Option (Nat × Channel × ChannelRequest)
  | .setupChannel channelId0 _ setup holderShutdownKeyPath =>
    match node.getChannel channelId0 with
    | some (position, .ready chan) =>
      some (position, chan, .setupSplice setup holderShutdownKeyPath)
    | _ => none
  | .withChannel channelId request =>
    match node.getChannel channelId with
    | some (position, .ready chan) => some (position, chan, request)
    | _ => none
  | _ => none

def approval (env : Env) : NodeRequest → Option (PaymentHash × PaymentState)
  | .addInvoice invoice => some (invoice.paymentHash, paymentStateFromInvoice invoice)
  | .addKeysend payee paymentHash amountMsat =>
    some (paymentHash, paymentStateFromKeysend payee paymentHash amountMsat env.now)
  | _ => none

end NodeRequest

inductive NodeEffect (ctx : NodeContext) (node : Node) : NodeInput → Node → Prop where
  | idle {input} : NodeEffect ctx node input node
  | called {env request position chan asked output s'}
      (calls : request.calls node = some (position, chan, asked))
      (stepped : (channelMachine ctx.toContext).step ⟨chan, node.state⟩ (.call env asked)
        = some (output, s')) :
      NodeEffect ctx node ⟨env, request⟩ (node.put position s')
  /-- A stub gets its slot when its id leads nowhere, a channel when its id leads to a stub. -/
  | added {input slot ids} (fresh : ∀ chan, slot = .ready chan → Fresh ⟨chan, node.state⟩)
      (unled : ∀ stub, slot = .stub stub → ∀ id ∈ ids, node.getChannel id = none)
      (led : ∀ chan, slot = .ready chan → chan.id0 ∈ ids
        ∧ ∃ position stub, node.getChannel chan.id0 = some (position, .stub stub)) :
      NodeEffect ctx node input (node.addSlot slot ids)
  | approved {env request hash paymentState velocityControl}
      (asked : request.approval env = some (hash, paymentState))
      (new : node.state.invoices.lookup hash = none) :
      NodeEffect ctx node ⟨env, request⟩ { node with
        state := { node.state with
          velocityControl := velocityControl
          invoices := node.state.invoices.insert hash paymentState
          payments := node.state.payments.orInsert hash .new } }
  /-- Nothing that payments are validated against changes. -/
  | recorded {input state} (payments : state.payments = node.state.payments)
      (invoices : state.invoices = node.state.invoices)
      (excessAmount : state.excessAmount = node.state.excessAmount) :
      NodeEffect ctx node input { node with state := state }

theorem getChannel_slot {node : Node} {channelId : ChannelId} {position slot}
    (found : node.getChannel channelId = some (position, slot)) :
    node.slots[position]? = some slot := by
  simp only [Node.getChannel, Option.bind_eq_bind, Option.bind_eq_some_iff, Option.pure_def,
    Option.some.injEq, Prod.mk.injEq] at found
  obtain ⟨_, _, _, here, rfl, rfl⟩ := found
  exact here

theorem calls_slot {node : Node} {request : NodeRequest} {position chan asked}
    (calls : request.calls node = some (position, chan, asked)) :
    node.slots[position]? = some (.ready chan) := by
  cases request with
  | setupChannel channelId0 optChannelId setup path =>
    simp only [NodeRequest.calls] at calls
    split at calls
    · rename_i found
      obtain ⟨rfl, rfl, _⟩ := by simpa using calls
      exact getChannel_slot found
    · cases calls
  | withChannel channelId request =>
    simp only [NodeRequest.calls] at calls
    split at calls
    · rename_i found
      obtain ⟨rfl, rfl, _⟩ := by simpa using calls
      exact getChannel_slot found
    · cases calls
  | _ => cases calls

namespace Node

variable {ctx : NodeContext} {env : Env} {node : Node}

def Complies (ctx : NodeContext) (env : Env) (node : Node) (request : NodeRequest) : Prop :=
  Ends (perform ctx env request) node
    (fun _ node' => NodeEffect ctx node ⟨env, request⟩ node')
    (fun fault node' => ∀ status, fault = .err status → NodeEffect ctx node ⟨env, request⟩ node')

theorem ends_onChannel {α : Type} {position chan call} {good : α → Node → Prop} :
    Ends (onChannel position chan call) node good bad ↔
      Ends call ⟨chan, node.state⟩ (fun a s => good a (node.put position s))
        (fun fault s => bad fault (node.put position s)) := by
  unfold Ends onChannel
  cases call ⟨chan, node.state⟩ <;> rfl

theorem onChannel_effect {request position chan asked}
    (calls : request.calls node = some (position, chan, asked)) :
    Ends (onChannel position chan (Channel.perform ctx.toContext env asked)) node
      (fun _ node' => NodeEffect ctx node ⟨env, request⟩ node')
      (fun fault node' => ∀ status, fault = .err status →
        NodeEffect ctx node ⟨env, request⟩ node') := by
  rw [ends_onChannel]
  unfold Ends
  split
  · rename_i reply s ok
    have stepped : (channelMachine ctx.toContext).step ⟨chan, node.state⟩ (.call env asked)
        = some (.ok reply, s) := by
      simp only [channelMachine, ok]
    exact .called calls stepped
  · rename_i fault s failed
    rintro status rfl
    have stepped : (channelMachine ctx.toContext).step ⟨chan, node.state⟩ (.call env asked)
        = some (.error status, s) := by
      simp only [channelMachine, failed]
    exact .called calls stepped

theorem newChannel_complies (dbid : U64) (peerId : Vector U8 33) :
    Complies ctx env node (.newChannel dbid peerId) := by
  simp only [Complies, perform, newChannel, ends_bind, ends_get]
  split
  · exact fun _ _ => .idle
  · split
    · exact fun _ _ => .idle
    · split
      · exact .idle
      · rename_i nowhere
        simp only [ends_bind, ends_modify]
        split
        · intro status err
          cases err
        · refine .added ?_ ?_ ?_
          · intro chan ready
            cases ready
          · intro stub _ id member
            obtain rfl := List.mem_singleton.mp member
            exact nowhere
          · intro chan ready
            cases ready

theorem ready_fresh {chan} (ok : stub.ready channelId0 optChannelId setup = .ok chan)
    (state : NodeState) : Fresh ⟨chan, state⟩ := by
  simp only [ChannelStub.ready, Result.bind_eq_ok, Except.ok.injEq] at ok
  obtain ⟨toHolderMsat, _, rfl⟩ := ok
  exact ⟨⟨_, rfl⟩, rfl, rfl, rfl⟩

theorem ready_id0 {chan} (ok : stub.ready channelId0 optChannelId setup = .ok chan) :
    chan.id0 = channelId0 := by
  simp only [ChannelStub.ready, Result.bind_eq_ok, Except.ok.injEq] at ok
  obtain ⟨toHolderMsat, _, rfl⟩ := ok
  rfl

theorem setupChannel_complies (channelId0 : ChannelId)
    (optChannelId : Option ChannelId) (setup : ChannelSetup) (path : DerivationPath) :
    Complies ctx env node (.setupChannel channelId0 optChannelId setup path) := by
  simp only [Complies, perform, setupChannel, ends_bind, ends_get]
  split
  · exact fun _ _ => .idle
  · rename_i position chan found
    have calls : NodeRequest.calls node (.setupChannel channelId0 optChannelId setup path)
        = some (position, chan, .setupSplice setup path) := by
      simp only [NodeRequest.calls, found]
    simp only [ends_bind, ends_pure]
    exact onChannel_effect calls
  · rename_i position stub found
    refine Ends.lift (fun _ _ _ _ => .idle) ?_
    intro chan ready
    have added : NodeEffect ctx node ⟨env, .setupChannel channelId0 optChannelId setup path⟩
        (node.addSlot (.ready chan) (optChannelId.getD channelId0 :: [channelId0])) := by
      refine .added ?_ ?_ ?_
      · intro chan' same
        cases same
        exact ready_fresh ready node.state
      · intro stub same
        cases same
      · intro chan' same
        cases same
        rw [ready_id0 ready]
        exact ⟨by simp, position, stub, found⟩
    rw [ends_bind, ends_lift_validation, ends_lift]
    refine ⟨fun _ _ => ?_, fun _ _ _ _ => .idle⟩
    simp only [ends_bind, ends_modify]
    split
    · exact fun _ _ => added
    · simp only [ends_pure, ends_bind, ends_lift]
      exact ⟨fun _ _ => added, fun _ _ _ _ => added⟩

theorem withChannel_complies (channelId : ChannelId) (request : ChannelRequest) :
    Complies ctx env node (.withChannel channelId request) := by
  simp only [Complies, perform, withChannel, ends_bind, ends_get]
  split
  · exact fun _ _ => .idle
  · simp only [ends_bind, ends_lift, ends_pure]
    exact ⟨fun _ _ => .idle, fun _ _ _ _ => .idle⟩
  · rename_i position chan found
    have calls : NodeRequest.calls node (.withChannel channelId request)
        = some (position, chan, request) := by
      simp only [NodeRequest.calls, found]
    simp only [ends_bind, ends_pure]
    exact onChannel_effect calls

theorem ends_onState {α : Type} {call} {good : α → Node → Prop} :
    Ends (onState call) node good bad ↔
      (∀ a state, call node.state = .ok (a, state) → good a { node with state := state })
        ∧ ∀ fault, call node.state = .error fault → bad fault node := by
  simp only [onState, ends_bind, ends_get, ends_lift, ends_modify, ends_pure, Prod.forall]

theorem approve_ok {state : NodeState} {hash paymentState}
    (ok : state.approve validator hash paymentState duplicate now persisted = .ok (added, state')) :
    ∃ velocityControl,
      state' = { state with velocityControl := velocityControl }
      ∨ state.invoices.lookup hash = none ∧ state' = { state with
          velocityControl := velocityControl
          invoices := state.invoices.insert hash paymentState
          payments := state.payments.orInsert hash .new } := by
  simp only [approve, Result.err_bind, Result.ite_err_eq_ok] at ok
  obtain ⟨_, ok⟩ := ok
  split at ok
  · split at ok
    · obtain ⟨_, rfl⟩ := Prod.mk.inj (Except.ok.inj ok)
      exact ⟨state.velocityControl, .inl rfl⟩
    · cases ok
  · rename_i new
    split at ok
    · rename_i velocityControl _
      obtain ⟨_, rfl⟩ := Prod.mk.inj (Except.ok.inj ok)
      exact ⟨velocityControl, .inl rfl⟩
    · rename_i velocityControl _
      split at ok
      · obtain ⟨_, rfl⟩ := Prod.mk.inj (Except.ok.inj ok)
        exact ⟨velocityControl, .inr ⟨new, rfl⟩⟩
      · cases ok

theorem addInvoice_ok {state : NodeState} {invoice}
    (ok : state.addInvoice validator invoice now persisted = .ok (added, state')) :
    state.approve validator invoice.paymentHash (paymentStateFromInvoice invoice)
      "add_invoice: already have a different invoice for same payment_hash" now persisted
      = .ok (added, state') := by
  unfold addInvoice at ok
  generalize validateInvoice validator invoice now = checked at ok
  cases checked with
  | ok _ => exact ok
  | error fault => cases fault <;> cases ok

theorem approve_effect {request : NodeRequest} {hash paymentState}
    (asked : request.approval env = some (hash, paymentState))
    (ok : node.state.approve validator hash paymentState duplicate now persisted = .ok (added,
      state')) : NodeEffect ctx node ⟨env, request⟩ { node with state := state' } := by
  obtain ⟨velocityControl, same | ⟨new, approved⟩⟩ := approve_ok ok
  · subst same
    exact .recorded rfl rfl rfl
  · subst approved
    exact .approved asked new

theorem addInvoice_complies (invoice : NodeState.Invoice) :
    Complies ctx env node (.addInvoice invoice) := by
  simp only [Complies, perform, ends_bind, ends_onState, ends_pure]
  refine ⟨?_, fun _ _ _ _ => .idle⟩
  intro added state ok
  exact approve_effect rfl (addInvoice_ok ok)

theorem addKeysend_complies (payee : PublicKey) (paymentHash : PaymentHash) (amountMsat : U64) :
    Complies ctx env node (.addKeysend payee paymentHash amountMsat) := by
  simp only [Complies, perform, ends_bind, ends_onState, ends_pure]
  refine ⟨?_, fun _ _ _ _ => .idle⟩
  intro added state ok
  exact approve_effect rfl ok

theorem signBolt11Invoice_complies (invoice : NodeState.Invoice) :
    Complies ctx env node (.signBolt11Invoice invoice) := by
  simp only [Complies, perform, ends_bind, ends_onState, ends_pure]
  refine ⟨?_, fun _ _ _ _ => .idle⟩
  intro _ state ok
  obtain ⟨issued, signed, done⟩ := Result.bind_eq_ok.mp ok
  obtain ⟨_, rfl⟩ := Prod.mk.inj (Except.ok.inj done)
  simp only [signBolt11Invoice, Result.err_bind, Result.ite_err_eq_ok] at signed
  obtain ⟨_, signed⟩ := signed
  split at signed
  · split at signed
    · cases signed
      exact .recorded rfl rfl rfl
    · cases signed
  · split at signed
    · cases signed
      exact .recorded rfl rfl rfl
    · cases signed
      exact .recorded rfl rfl rfl

theorem perform_complies (request : NodeRequest) : Complies ctx env node request := by
  cases request with
  | newChannel => exact newChannel_complies ..
  | setupChannel => exact setupChannel_complies ..
  | withChannel => exact withChannel_complies ..
  | addInvoice => exact addInvoice_complies _
  | addKeysend => exact addKeysend_complies ..
  | signBolt11Invoice => exact signBolt11Invoice_complies _

end Node

theorem node_step_effect {node input output}
    (stepped : (nodeMachine ctx).step node input = some (output, node')) :
    NodeEffect ctx node input node' := by
  have complies : Node.Complies ctx input.env node input.request :=
    Node.perform_complies input.request
  simp only [nodeMachine] at stepped
  split at stepped
  · rename_i reply _ ok
    obtain ⟨_, rfl⟩ := Prod.mk.inj (Option.some.inj stepped)
    exact complies.ok ok
  · rename_i status _ err
    obtain ⟨_, rfl⟩ := Prod.mk.inj (Option.some.inj stepped)
    exact complies.error err status rfl
  · cases stepped

theorem node_run_inv (condition : Node → NodeInput → Prop) (Inv : Node → Prop) {start node}
    (run : (nodeMachine ctx).Run start history node)
    (meets : Machine.Meets (fun _ => condition) history) (initially : Inv start)
    (kept : ∀ node input node', Inv node → condition node input → NodeEffect ctx node input node' →
      Inv node') : Inv node := by
  refine run.inv (fun _ node => Inv node) meets initially ?_
  intro history node input output node' inv condition stepped
  exact kept node input node' inv condition (node_step_effect stepped)

/-- What a channel comes to from its setup, with whatever the node does in between. -/
def reached (ctx : Context) : Set Locked :=
  {s | ∃ start history, Fresh start ∧ (channelMachine ctx).Run start history s}

theorem reached_others {ctx} (here : s ∈ reached ctx) (state : NodeState) :
    ⟨s.chan, state⟩ ∈ reached ctx := by
  obtain ⟨start, history, fresh, run⟩ := here
  exact ⟨start, ⟨s, .others state, .ok .done⟩ :: history, fresh, run.step rfl⟩

/-- However a node interleaves its channels, each is in a state that it comes to on its own. -/
theorem channels_reached (ctx : NodeContext) (velocityControl : VelocityControl) :
    {s | ∃ history node, (nodeMachine ctx).Run (.new velocityControl) history node
      ∧ .ready s.chan ∈ node.slots ∧ s.state = node.state} ⊆ reached ctx.toContext := by
  rintro ⟨chan, _⟩ ⟨history, node, run, here, rfl⟩
  induction run generalizing chan with
  | init => cases here
  | step _ stepped ih =>
    cases node_step_effect stepped with
    | idle => exact ih chan here
    | called calls called =>
      rcases List.mem_or_eq_of_mem_set here with here | same
      · exact reached_others (ih chan here) _
      · cases same
        obtain ⟨start, history, fresh, run⟩ := ih _ (List.mem_of_getElem? (calls_slot calls))
        exact ⟨start, _, fresh, run.step called⟩
    | added fresh =>
      rcases List.mem_append.mp here with here | here
      · exact ih chan here
      · exact ⟨_, [], fresh chan (List.mem_singleton.mp here).symm, .init⟩
    | approved | recorded => exact reached_others (ih chan here) _

end Vls
