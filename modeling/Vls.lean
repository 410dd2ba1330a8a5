import Vls.Channel.SecretGate
import Vls.Node.Coverage
import Vls.Node.Expiry
import Vls.Channel.Demotion
import Vls.Channel.Atomicity
import Vls.Node.Ledger
import Vls.Channel.FundingLock
import Vls.Channel.FundingTags
import Vls.Node.EraBalance
import Vls.Monitor.Done
import Vls.Chain.Watches
import Vls.Chain.Compact
import Vls.Node.Wrapper
import Vls.Node.Locks
import Vls.Persist.InStep
import Vls.Channel.PointLookup
import Vls.Policy.FeeCap
import Vls.Channel.RecoveryHtlcs
import Vls.Storage.BackEnds
import Vls.Proxy.Takeover
import Vls.Persist.CatchUp
import Vls.Policy.Conserved
import Vls.Channel.HolderSignatures
import Vls.Node.Allowlist
import Vls.Onchain.Accounted
import Vls.Channel.Sweep
import Vls.Node.Velocity
import Vls.Channel.LockedWindow
import Vls.Onchain.FundingInputs
import Vls.Persist.Authenticated
import Vls.Persist.Transaction
import Vls.Persist.Transactional
import Vls.Onchain.Change
import Vls.Channel.CloseReadings
