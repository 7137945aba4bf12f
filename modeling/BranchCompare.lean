import BranchCompare.BranchCache.Run
import BranchCompare.Main
import BranchCompare.Proofs.BoundPage
import BranchCompare.Proofs.BranchCache.Course
import BranchCompare.Proofs.BranchCache.Entries
import BranchCompare.Proofs.BranchCache.InFlight
import BranchCompare.Proofs.BranchCache.InOrder
import BranchCompare.Proofs.BranchCache.Provenance
import BranchCompare.Proofs.BranchCache.Quiet
import BranchCompare.Proofs.CompareRequest
import BranchCompare.Proofs.Listing.Pulls
import BranchCompare.Proofs.Page
import BranchCompare.Proofs.PresetTable
import BranchCompare.Proofs.SelectionStore
import BranchCompare.Proofs.Workflow.ChoiceTurns
import BranchCompare.Proofs.Workflow.Choices
import BranchCompare.Proofs.Workflow.Controls
import BranchCompare.Proofs.Workflow.Endings
import BranchCompare.Proofs.Workflow.Failures
import BranchCompare.Proofs.Workflow.KeptPicks
import BranchCompare.Proofs.Workflow.LastListing
import BranchCompare.Proofs.Workflow.LastSelection
import BranchCompare.Proofs.Workflow.Launches
import BranchCompare.Proofs.Workflow.Launching
import BranchCompare.Proofs.Workflow.Leaves
import BranchCompare.Proofs.Workflow.RowComparisons
import BranchCompare.Proofs.Workflow.Selections
import BranchCompare.Proofs.Workflow.ShownList
import BranchCompare.Proofs.Workflow.Stretches
import BranchCompare.Proofs.Workflow.ViewChanges
import BranchCompare.Proofs.Workflow.ViewOperations
import BranchCompare.Proofs.Workflow.Views
import BranchCompare.Proofs.CompareRequest.Reading
import BranchCompare.Proofs.CompareRequest.Readers
import BranchCompare.Proofs.CompareRequest.Tables
import BranchCompare.Proofs.CommandLine.LoneFetch
import BranchCompare.Proofs.Workflow.EmittedUrls
import BranchCompare.Proofs.CommandLine.Comparing
import BranchCompare.Proofs.SelectionStore.Sharing
import BranchCompare.Proofs.Query.Placed
import BranchCompare.Proofs.Workflow.Candidates
import BranchCompare.Proofs.Workflow.Fixtures
import BranchCompare.Proofs.Workflow.TakenPicks
import BranchCompare.Proofs.Workflow.LoadedChoices
import BranchCompare.Proofs.SelectionStore.Opening
import BranchCompare.Proofs.SelectionStore.FailedChanges
import BranchCompare.Proofs.PresetTable.Loading
import BranchCompare.Proofs.Workflow.RowVerdicts
import BranchCompare.Proofs.ChangeRequest.Rows
import BranchCompare.Proofs.Listing.Branches
import BranchCompare.Proofs.LoadingIndicator
import BranchCompare.Proofs.Workflow.Phases
import BranchCompare.Proofs.Workflow.Loading
import BranchCompare.Proofs.Workflow.ListedRows
import BranchCompare.Proofs.Control
import BranchCompare.Proofs.CommandLine.RequestComparing
