import TokenLedger.Main
import TokenLedger.Proofs.Chain.Agreement
import TokenLedger.Proofs.Chain.Blocks
import TokenLedger.Proofs.Chain.Commitment
import TokenLedger.Proofs.Chain.Commutation
import TokenLedger.Proofs.Chain.Conservation
import TokenLedger.Proofs.Chain.Denominations
import TokenLedger.Proofs.Chain.Direct
import TokenLedger.Proofs.Chain.Effects
import TokenLedger.Proofs.Chain.Faults
import TokenLedger.Proofs.Chain.Handling
import TokenLedger.Proofs.Chain.Heights
import TokenLedger.Proofs.Chain.Normalisation
import TokenLedger.Proofs.Chain.Outcomes
import TokenLedger.Proofs.Chain.Parameters
import TokenLedger.Proofs.Chain.Readings
import TokenLedger.Proofs.Chain.Refusals
import TokenLedger.Proofs.Chain.Restart
import TokenLedger.Proofs.Chain.Supply
import TokenLedger.Proofs.Chain.Unloaded
import TokenLedger.Proofs.Coins.Construction
import TokenLedger.Proofs.Coins.Laws
import TokenLedger.Proofs.Config.Home
import TokenLedger.Proofs.Ledger.Books
import TokenLedger.Proofs.Ledger.Programs
import TokenLedger.Proofs.Ledger.Subspaces
import TokenLedger.Proofs.Ledger.Transfers
import TokenLedger.Proofs.Schedule.Dispatch
import TokenLedger.Proofs.Store.Namespaces
import TokenLedger.Proofs.Store.Stacks
import TokenLedger.Proofs.Json.Documents
import TokenLedger.Proofs.Token.Canonical
import TokenLedger.Proofs.Token.Regimes
import TokenLedger.Proofs.Ledger.Pages
