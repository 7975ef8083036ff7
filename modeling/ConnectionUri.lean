import ConnectionUri.Entity
import ConnectionUri.Main
import ConnectionUri.Proofs.Agreement
import ConnectionUri.Proofs.CommandLine.Printing
import ConnectionUri.Proofs.CommandLine.Starting
import ConnectionUri.Proofs.Connection.Disclosure
import ConnectionUri.Proofs.Connection.DisplayName
import ConnectionUri.Proofs.Connection.Faults
import ConnectionUri.Proofs.Connection.NameWeight
import ConnectionUri.Proofs.Connection.Policy
import ConnectionUri.Proofs.Connection.Renaming
import ConnectionUri.Proofs.Connection.Reordering
import ConnectionUri.Proofs.Connection.RoundTrip
import ConnectionUri.Proofs.Connection.Secrecy
import ConnectionUri.Proofs.Log.Coverage
import ConnectionUri.Proofs.Log.Credentials
import ConnectionUri.Proofs.Log.Failure
import ConnectionUri.Proofs.Log.History
import ConnectionUri.Proofs.Log.Raising
import ConnectionUri.Proofs.Log.Repetition
import ConnectionUri.Proofs.Log.Runs
import ConnectionUri.Proofs.Log.Sealing
import ConnectionUri.Proofs.Log.UserInfoMasking
import ConnectionUri.Proofs.Log.ValueMasking
import ConnectionUri.Proofs.Percent.Counting
import ConnectionUri.Proofs.Percent.Inversion
import ConnectionUri.Proofs.Percent.WholeText
import ConnectionUri.Proofs.Query.Concatenation
import ConnectionUri.Proofs.Session
import ConnectionUri.Proofs.Settings.Layers
import ConnectionUri.Proofs.Settings.Loading
import ConnectionUri.Proofs.Text.Decimal
import ConnectionUri.Proofs.Text.Escaped
import ConnectionUri.Proofs.Value
import ConnectionUri.Session
