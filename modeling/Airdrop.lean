import Airdrop.Library.Checked
import Airdrop.Library.Transition
import Airdrop.Library.HashTree
import Airdrop.Library.HashLevels
import Airdrop.Library.Schedule
import Airdrop.Library.Reordering
import Airdrop.Library.Blocks
import Airdrop.Library.LastWins
import Airdrop.Library.Interference
import Airdrop.Library.Mempool
import Airdrop.Library.Entitlements
import Airdrop.Library.LeastOfKey
import Airdrop.Library.Footprint
import Airdrop.Library.Codec
import Airdrop.Library.Allocation
import Airdrop.Core.Bytes
import Airdrop.Core.Verify
import Airdrop.Core.Base58
import Airdrop.Core.Borsh
import Airdrop.MerkleTree.Tree
import Airdrop.MerkleTree.AirdropMerkleTree
import Airdrop.MerkleTree.CsvEntry
import Airdrop.Program.State
import Airdrop.Program.Accounts
import Airdrop.Program.Claims
import Airdrop.Program.Lifecycle
import Airdrop.Program.Machine
import Airdrop.Program.Layout
import Airdrop.Program.Wire
import Airdrop.MerkleTree.TreeFolder
import Airdrop.Cli.CreateMerkleTree
import Airdrop.Cli.GenerateKvProof
import Airdrop.Cli.NewDistributor
import Airdrop.Cli.Claim
import Airdrop.Cli.SetOnVersions
import Airdrop.Cli.SlotByTime
import Airdrop.Cli.CloseClaimStatus
import Airdrop.Cli.FilterList
import Airdrop.Cli.Clawback
import Airdrop.Cli.FundAll
import Airdrop.Cli.Send
import Airdrop.Cli.Node
import Airdrop.Cli.SetClawbackReceiver
import Airdrop.Cli.CloseDistributor
import Airdrop.Cli.ClaimLocked
import Airdrop.Cli.Verify
import Airdrop.Api.Server
import Airdrop.Proofs.TreeRefinement
import Airdrop.Proofs.MergedNodes
import Airdrop.Proofs.BuiltTree
import Airdrop.Proofs.MerkleCorrectness
import Airdrop.Proofs.Sharding
import Airdrop.Proofs.Arithmetic
import Airdrop.Proofs.BankViews
import Airdrop.Proofs.ClaimSpecs
import Airdrop.Proofs.LifecycleSpecs
import Airdrop.Proofs.Steps
import Airdrop.Proofs.Deployment
import Airdrop.Proofs.ServerSpecs
import Airdrop.Proofs.KvExport
import Airdrop.Proofs.Serving
import Airdrop.Proofs.FrontRunCheck
import Airdrop.Proofs.WellFormed
import Airdrop.Proofs.Lifetime
import Airdrop.Proofs.LedgerConservation
import Airdrop.Proofs.Sweeps
import Airdrop.Proofs.ActivationGate
import Airdrop.Proofs.ClaimRecords
import Airdrop.Proofs.NodeCounter
import Airdrop.Proofs.Certificates
import Airdrop.Proofs.Payouts
import Airdrop.Proofs.ClaimSoundness
import Airdrop.Proofs.Supply
import Airdrop.Proofs.Solvency
import Airdrop.Proofs.NoStarvation
import Airdrop.Proofs.Authority
import Airdrop.Proofs.Vesting
import Airdrop.Proofs.GracePeriod
import Airdrop.Proofs.Commutation
import Airdrop.Proofs.Funding
import Airdrop.Proofs.Resend
import Airdrop.Proofs.BonusSchedule
import Airdrop.Proofs.BonusMultiplier
import Airdrop.Proofs.ClaimBuilders
import Airdrop.Proofs.SetOnVersions
import Airdrop.Proofs.ClawbackRange
import Airdrop.Proofs.MassSend
import Airdrop.Proofs.Allocations
import Airdrop.Proofs.RootBinding
import Airdrop.Proofs.PathVerification
import Airdrop.Proofs.Validation
import Airdrop.Proofs.SlotEstimate
import Airdrop.Proofs.CloseBatches
import Airdrop.Proofs.FilteredLists
import Airdrop.Proofs.TreeShape
import Airdrop.Proofs.AccountFootprints
import Airdrop.Proofs.Layouts
import Airdrop.Proofs.WireFormat
import Airdrop.Proofs.Bystanders
import Airdrop.Proofs.NodeSpecs
import Airdrop.Proofs.StatusClosing
import Airdrop.Proofs.ReceiverChange
import Airdrop.Proofs.ClaimCommand
import Airdrop.Proofs.FolderDeployment
import Airdrop.Proofs.DeploymentCompletes
import Airdrop.Proofs.Verification
import Airdrop.Proofs.CommandRefinement
import Airdrop.Proofs.DeploymentFounds
import Airdrop.Proofs.FundedSeason
import Airdrop.Proofs.WholeAirdrop
import Airdrop.Proofs.DistributorClosing
