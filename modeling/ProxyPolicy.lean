import ProxyPolicy.Main
import ProxyPolicy.Net.HostPort
import ProxyPolicy.Proofs.Policy.Outcome
import ProxyPolicy.Proofs.Policy.Transaction
import ProxyPolicy.Proofs.Policy.Effect
import ProxyPolicy.Proofs.Policy.History
import ProxyPolicy.Proofs.Policy.Consistency
import ProxyPolicy.Proofs.Policy.Faultless
import ProxyPolicy.Proofs.AccessLog.Grammar
import ProxyPolicy.Proofs.Tail.Append
import ProxyPolicy.Proofs.Policy.Batches
import ProxyPolicy.Proofs.Policy.Listing
import ProxyPolicy.Proofs.Policy.Moves
import ProxyPolicy.Proofs.Policy.Replacement
import ProxyPolicy.Proofs.Tail.Snapshots
import ProxyPolicy.Proofs.Fault.FanOut
import ProxyPolicy.Proofs.Policy.Views
import ProxyPolicy.Proofs.AccessLog.Spelling
import ProxyPolicy.Proofs.Policy.Commutation
import ProxyPolicy.Proofs.Policy.Validity
import ProxyPolicy.Proofs.Policy.Creation
import ProxyPolicy.Proofs.Policy.Deletion
import ProxyPolicy.Proofs.Policy.Editing
import ProxyPolicy.Proofs.Policy.Removal
import ProxyPolicy.Proofs.Policy.Membership
import ProxyPolicy.Proofs.Text.Octets
import ProxyPolicy.Proofs.Policy.Ordering
import ProxyPolicy.Proofs.Net.Grouping
import ProxyPolicy.Proofs.Net.Idempotence
import ProxyPolicy.Proofs.AccessLog.Address
import ProxyPolicy.Proofs.Policy.Opening
import ProxyPolicy.Proofs.Cli.Run
import ProxyPolicy.Proofs.Cli.Surroundings
import ProxyPolicy.Proofs.Cli.Changes
import ProxyPolicy.Proofs.Cli.Limits
import ProxyPolicy.Proofs.Net.HostPort
import ProxyPolicy.Proofs.Time.Rounding
import ProxyPolicy.Proofs.Time.Binary64
import ProxyPolicy.Proofs.Time.Conversion
import ProxyPolicy.Proofs.Time.Calendar
import ProxyPolicy.Proofs.AccessLog.Epoch
import ProxyPolicy.Proofs.AccessLog.Chronology
import ProxyPolicy.Proofs.Policy.Shape
import ProxyPolicy.Proofs.Policy.Damage
import ProxyPolicy.Proofs.Net.Port
import ProxyPolicy.Proofs.Toml.Keys
import ProxyPolicy.Proofs.Config.Settings
import ProxyPolicy.Proofs.Config.Edits
